import GlusterBlock.ConfigOptions
import Mathlib.Data.List.Induction

/-! Reloading the configuration. What a key has received after a version is read off the
assignments of that version, and its type off the first assignment of all. -/
namespace GlusterBlock.DynConfig

section Load

variable {options : Options} {key : String} {o : ConfOption} {past as : List Assignment}

/-- The default takes the place of a value that was handed on. -/
def reset (key : String) (o : ConfOption) (options : Options) : Options :=
  if options key.toList = none then options
  else Function.update options key.toList (some o)

theorem reset_of_ne {other : String} (different : other.toList ≠ key.toList) :
    reset key o options other.toList = options other.toList := by
  unfold reset
  split
  · rfl
  · exact Function.update_of_ne different ..

theorem reset_self : reset key o options key.toList = (options key.toList).map (fun _ => o) := by
  unfold reset
  cases there : options key.toList with
  | none => simp [there]
  | some old => simp

theorem typed_reset (typed : Typed past options) (tagged : Tagged o)
    (type : ∀ t, kind key.toList past = some t → t = o.type) : Typed past (reset key o options) := by
  unfold reset
  split
  · exact typed
  · rename_i there
    refine ⟨fun name named => ?_, fun name named p mem => ?_⟩
    · by_cases same : name = key.toList
      · subst same
        obtain ⟨old, found⟩ := Option.ne_none_iff_exists'.mp there
        have known := typed.type _ named
        rw [found] at known
        rw [Function.update_self, ← known, Option.map_some, ← type old.type known.symm]
        rfl
      · rw [Function.update_of_ne same]
        exact typed.type name named
    · by_cases same : name = key.toList
      · subst same
        rw [Function.update_self] at mem
        exact Option.some.inj mem ▸ tagged
      · rw [Function.update_of_ne same] at mem
        exact typed.tagged name named p mem

theorem parseCfgStr_found {dflt : List Char} {old found : Option (List Char)}
    (there : options key.toList = found.map (fun text => ⟨.str, .str text⟩)) :
    parseCfgStr options key dflt old =
      some (reset key ⟨.str, .str dflt⟩ options, found.or old) := by
  unfold parseCfgStr reset
  cases found with
  | none => simp [there]
  | some text => simp [there]

theorem parseCfgInt_found {dflt old : Int} {found : Option Int}
    (there : options key.toList = found.map (fun n => ⟨.int, .int n⟩)) :
    parseCfgInt options key dflt old =
      some (reset key ⟨.int, .int dflt⟩ options, found.getD old) := by
  unfold parseCfgInt reset
  cases found with
  | none => simp [there]
  | some n => simp [there]

/-- The options that are handed on, with their defaults. -/
def slots : List (String × ConfOption) :=
  [("GB_LOG_DIR", ⟨.str, .str gbLogdirDef⟩), ("GB_LOG_LEVEL", ⟨.str, .str gbLogLevelDef⟩),
    ("GB_GLFS_LRU_COUNT", ⟨.int, .int lruCountDef⟩), ("GB_CLI_TIMEOUT", ⟨.int, .int cliTimeoutDef⟩)]

def settled (options : Options) : Options :=
  slots.foldl (fun options slot => reset slot.1 slot.2 options) options

theorem resets_of_notMem {l : List (String × ConfOption)} {name : String}
    (out : name.toList ∉ l.map (fun slot => slot.1.toList)) :
    l.foldl (fun options slot => reset slot.1 slot.2 options) options name.toList =
      options name.toList := by
  induction l generalizing options with
  | nil => rfl
  | cons slot l ih =>
    rw [List.map_cons, List.mem_cons, not_or] at out
    rw [List.foldl_cons, ih out.2, reset_of_ne out.1]

theorem resets_mem {l : List (String × ConfOption)} {slot : String × ConfOption}
    (names : (l.map (fun slot => slot.1.toList)).Nodup) (mem : slot ∈ l) :
    l.foldl (fun options slot => reset slot.1 slot.2 options) options slot.1.toList =
      (options slot.1.toList).map fun _ => slot.2 := by
  induction l generalizing options with
  | nil => cases mem
  | cons head l ih =>
    rw [List.map_cons, List.nodup_cons] at names
    rw [List.foldl_cons]
    rcases List.mem_cons.mp mem with same | mem
    · subst same
      rw [resets_of_notMem names.1, reset_self]
    · have other : slot.1.toList ≠ head.1.toList :=
        fun same => names.1 (same ▸ List.mem_map_of_mem mem)
      rw [ih names.2 mem, reset_of_ne other]

theorem settled_slot {slot : String × ConfOption} (mem : slot ∈ slots) :
    settled options slot.1.toList = (options slot.1.toList).map fun _ => slot.2 :=
  resets_mem (by decide) mem

theorem typed_settled (typed : Typed past options)
    (types : ∀ slot ∈ slots, ∀ t, kind slot.1.toList past = some t → t = slot.2.type) :
    Typed past (settled options) := by
  have tagged : ∀ slot ∈ slots, Tagged slot.2 := by
    intro slot mem
    simp only [slots, List.mem_cons, List.not_mem_nil, or_false] at mem
    rcases mem with rfl | rfl | rfl | rfl
    · exact .inr ⟨rfl, _, rfl⟩
    · exact .inr ⟨rfl, _, rfl⟩
    · exact .inl ⟨rfl, _, rfl⟩
    · exact .inl ⟨rfl, _, rfl⟩
  have each : ∀ l : List (String × ConfOption), (∀ slot ∈ l, slot ∈ slots) → ∀ options,
      Typed past options →
        Typed past (l.foldl (fun options slot => reset slot.1 slot.2 options) options) := by
    intro l
    induction l with
    | nil => exact fun _ _ typed => typed
    | cons slot l ih =>
      intro sub options typed
      have mem := sub slot List.mem_cons_self
      exact ih (fun s there => sub s (List.mem_cons_of_mem slot there)) _
        (typed_reset typed (tagged slot mem) (types slot mem))
  exact each slots (fun _ mem => mem) options typed

theorem setOptions_found {st : ConfState} {dir level : Option (List Char)} {lru timeout : Option Int}
    (hdir : st.options "GB_LOG_DIR".toList = dir.map (fun text => ⟨.str, .str text⟩))
    (hlevel : st.options "GB_LOG_LEVEL".toList = level.map (fun text => ⟨.str, .str text⟩))
    (hlru : st.options "GB_GLFS_LRU_COUNT".toList = lru.map (fun n => ⟨.int, .int n⟩))
    (htimeout : st.options "GB_CLI_TIMEOUT".toList = timeout.map (fun n => ⟨.int, .int n⟩)) :
    glusterBlockConfSetOptions false false st = some
      { options := settled st.options,
        cfg := ⟨dir.or st.cfg.logDir, level.or st.cfg.logLevel, lru.getD st.cfg.glfsLruCount,
          timeout.getD st.cfg.cliTimeout⟩ } := by
  have level' : reset "GB_LOG_DIR" ⟨.str, .str gbLogdirDef⟩ st.options "GB_LOG_LEVEL".toList = _ :=
    (reset_of_ne (by decide)).trans hlevel
  have lru' : reset "GB_LOG_LEVEL" ⟨.str, .str gbLogLevelDef⟩
      (reset "GB_LOG_DIR" ⟨.str, .str gbLogdirDef⟩ st.options) "GB_GLFS_LRU_COUNT".toList = _ :=
    (reset_of_ne (by decide)).trans ((reset_of_ne (by decide)).trans hlru)
  have timeout' : reset "GB_GLFS_LRU_COUNT" ⟨.int, .int lruCountDef⟩
      (reset "GB_LOG_LEVEL" ⟨.str, .str gbLogLevelDef⟩
        (reset "GB_LOG_DIR" ⟨.str, .str gbLogdirDef⟩ st.options)) "GB_CLI_TIMEOUT".toList = _ :=
    (reset_of_ne (by decide)).trans
      ((reset_of_ne (by decide)).trans ((reset_of_ne (by decide)).trans htimeout))
  unfold glusterBlockConfSetOptions
  rw [parseCfgStr_found hdir]
  simp only [Option.bind_eq_bind, Option.bind_some, Bool.false_eq_true, if_false]
  rw [parseCfgStr_found level']
  simp only [Option.bind_some]
  rw [parseCfgInt_found lru']
  simp only [Option.bind_some]
  rw [parseCfgInt_found timeout']
  rfl

end Load

section Reload

variable {first : ConfVersion} {hist : List ConfVersion} {v : ConfVersion} {key : String}

def everyAssignment (hist : List ConfVersion) : List Assignment :=
  hist.flatMap ConfVersion.assignments

/-- What a key receives from the last version: the value of its last assignment there, or
the default when it is one of the earlier versions that assigned it. -/
def received {α : Type} (read : List Char → α) (dflt : α) (key : String) (hist : List ConfVersion)
    (v : ConfVersion) : Option α :=
  match lastValue key.toList v.assignments with
  | some text => some (read text)
  | none => if valuesOf key.toList (everyAssignment hist) = [] then none else some dflt

def number (text : List Char) : Int := (intValue text).getD 0

/-- What the four keys receive. A key that no version assigned is left as it was at the
start. -/
def receivedConfig (hist : List ConfVersion) (v : ConfVersion) : GbConfig where
  logDir := received strValue gbLogdirDef "GB_LOG_DIR" hist v
  logLevel := received strValue gbLogLevelDef "GB_LOG_LEVEL" hist v
  glfsLruCount := (received number lruCountDef "GB_GLFS_LRU_COUNT" hist v).getD 0
  cliTimeout := (received number cliTimeoutDef "GB_CLI_TIMEOUT" hist v).getD 0

/-- No line reaches into another one: every version has text that fits the buffer, a value
has no end of line in it, a number has a digit, a text at the end of the file has no closing
quote, and the first value of each of the four keys looks like its type. -/
structure Apart (hist : List ConfVersion) : Prop where
  written : ∀ v ∈ hist, v.file ≠ []
  fits : ∀ v ∈ hist, Fits 0 v.kept
  oneLine : ∀ a ∈ everyAssignment hist, '\r' ∉ a.value
  digits : ∀ a ∈ everyAssignment hist, kind a.key (everyAssignment hist) = some .int →
    a.value.any Char.isDigit
  uncut : ∀ v ∈ hist, ∀ a ∈ v.unfinished, a.crlf = false →
    kind a.key (everyAssignment hist) = some .str → closesQuote a.value = false
  texts : kind "GB_LOG_DIR".toList (everyAssignment hist) ≠ some .int ∧
    kind "GB_LOG_LEVEL".toList (everyAssignment hist) ≠ some .int
  numbers : kind "GB_GLFS_LRU_COUNT".toList (everyAssignment hist) ≠ some .str ∧
    kind "GB_CLI_TIMEOUT".toList (everyAssignment hist) ≠ some .str

theorem everyAssignment_snoc :
    everyAssignment (hist ++ [v]) = everyAssignment hist ++ v.assignments := by
  simp [everyAssignment]

theorem intValue_digit {text : List Char} (digit : text.any Char.isDigit) :
    (intValue text).isSome := by
  obtain ⟨c, mem, digit⟩ := List.any_eq_true.mp digit
  unfold intValue
  cases start : text.dropWhile (fun c => !c.isDigit) with
  | nil =>
    have none := List.dropWhile_eq_nil_iff.mp start c mem
    simp [digit] at none
  | cons d rest =>
    have first : d.isDigit := by
      have stopped := List.head_dropWhile_not (fun c : Char => !c.isDigit) (by rw [start]; simp)
      simpa [start] using stopped
    rw [List.takeWhile_cons_of_pos first]
    rfl

theorem kind_ne_bool {key : List Char} {as : List Assignment} : kind key as ≠ some .bool := by
  unfold kind
  cases (valuesOf key as).head? with
  | none => simp
  | some text => simp [rawType_ne_bool]

theorem Apart.front {later : List ConfVersion} (apart : Apart (hist ++ later)) : Apart hist := by
  have split : everyAssignment (hist ++ later) = everyAssignment hist ++ everyAssignment later :=
    List.flatMap_append
  have mem {w : ConfVersion} (there : w ∈ hist) : w ∈ hist ++ later := List.mem_append_left _ there
  have amem {a : Assignment} (there : a ∈ everyAssignment hist) :
      a ∈ everyAssignment (hist ++ later) := by
    rw [split]
    exact List.mem_append_left _ there
  have known {key : List Char} {type : OptionType} (first : kind key (everyAssignment hist) = some type) :
      kind key (everyAssignment (hist ++ later)) = some type := by
    rw [split]
    exact kind_kept first
  exact
    { written := fun w there => apart.written w (mem there)
      fits := fun w there => apart.fits w (mem there)
      oneLine := fun a there => apart.oneLine a (amem there)
      digits := fun a there int => apart.digits a (amem there) (known int)
      uncut := fun w there a last crlf str => apart.uncut w (mem there) a last crlf (known str)
      texts := ⟨fun int => apart.texts.1 (known int), fun int => apart.texts.2 (known int)⟩
      numbers := ⟨fun str => apart.numbers.1 (known str), fun str => apart.numbers.2 (known str)⟩ }

theorem kind_eq_none {key : List Char} {as : List Assignment} :
    kind key as = none ↔ valuesOf key as = [] := by
  unfold kind
  rw [Option.map_eq_none_iff, List.head?_eq_none_iff]

/-- What a load leaves: typed options with the defaults in them, and nothing in the keys
that no version assigned. -/
structure Loaded (hist : List ConfVersion) (st : ConfState) : Prop where
  typed : Typed (everyAssignment hist) st.options
  defaults : ∀ slot ∈ slots, st.options slot.1.toList =
    (kind slot.1.toList (everyAssignment hist)).map fun _ => slot.2
  logDir : valuesOf "GB_LOG_DIR".toList (everyAssignment hist) = [] → st.cfg.logDir = none
  logLevel : valuesOf "GB_LOG_LEVEL".toList (everyAssignment hist) = [] → st.cfg.logLevel = none
  lruCount : valuesOf "GB_GLFS_LRU_COUNT".toList (everyAssignment hist) = [] →
    st.cfg.glfsLruCount = 0
  cliTimeout : valuesOf "GB_CLI_TIMEOUT".toList (everyAssignment hist) = [] → st.cfg.cliTimeout = 0

/-- What the load of a version needs: only the options that it assigns hold something else
than their defaults. -/
structure Prepared (hist : List ConfVersion) (v : ConfVersion) (st : ConfState) : Prop where
  typed : Typed (everyAssignment hist) st.options
  defaults : ∀ slot ∈ slots, lastValue slot.1.toList v.assignments = none →
    st.options slot.1.toList = (kind slot.1.toList (everyAssignment hist)).map fun _ => slot.2
  logDir : valuesOf "GB_LOG_DIR".toList (everyAssignment hist) = [] → st.cfg.logDir = none
  logLevel : valuesOf "GB_LOG_LEVEL".toList (everyAssignment hist) = [] → st.cfg.logLevel = none
  lruCount : valuesOf "GB_GLFS_LRU_COUNT".toList (everyAssignment hist) = [] →
    st.cfg.glfsLruCount = 0
  cliTimeout : valuesOf "GB_CLI_TIMEOUT".toList (everyAssignment hist) = [] → st.cfg.cliTimeout = 0

theorem Loaded.prepared {st : ConfState} (loaded : Loaded hist st) : Prepared hist v st where
  typed := loaded.typed
  defaults slot mem _ := loaded.defaults slot mem
  logDir := loaded.logDir
  logLevel := loaded.logLevel
  lruCount := loaded.lruCount
  cliTimeout := loaded.cliTimeout

/-- An option that held its default, or is assigned now, holds what its key receives. -/
theorem latest_received {α : Type} {options : Options} {type : OptionType} {tag : α → OptValue}
    {read : List Char → α} {dflt : α}
    (idle : lastValue key.toList v.assignments = none → options key.toList =
      (kind key.toList (everyAssignment hist)).map fun _ => ⟨type, tag dflt⟩)
    (same : ∀ t, kind key.toList (everyAssignment (hist ++ [v])) = some t → t = type)
    (reads : ∀ text, readValue type text = tag (read text)) :
    latest (everyAssignment hist) v.assignments options key.toList =
      (received read dflt key hist v).map (fun x => ⟨type, tag x⟩) := by
  unfold latest received
  cases last : lastValue key.toList v.assignments with
  | some text =>
    dsimp only
    rw [← everyAssignment_snoc]
    have known : kind key.toList (everyAssignment (hist ++ [v])) ≠ none := by
      intro none
      rw [kind_eq_none, everyAssignment_snoc, valuesOf_append, List.append_eq_nil_iff] at none
      rw [lastValue, none.2] at last
      cases last
    obtain ⟨t, first⟩ := Option.ne_none_iff_exists'.mp known
    rw [first, same t first, Option.map_some, Option.map_some, reads]
  | none =>
    dsimp only
    rw [idle last]
    by_cases empty : valuesOf key.toList (everyAssignment hist) = []
    · rw [if_pos empty, kind_eq_none.mpr empty]
      rfl
    · obtain ⟨t, first⟩ := Option.ne_none_iff_exists'.mp (mt kind_eq_none.mp empty)
      rw [if_neg empty, first]
      rfl

/-- A key receives nothing when no version assigned it. -/
theorem received_none {α : Type} {read : List Char → α} {dflt : α} :
    received read dflt key hist v = none ↔
      valuesOf key.toList (everyAssignment (hist ++ [v])) = [] := by
  rw [everyAssignment_snoc, valuesOf_append, List.append_eq_nil_iff]
  unfold received lastValue
  cases last : (valuesOf key.toList v.assignments).getLast? with
  | some text =>
    have some : valuesOf key.toList v.assignments ≠ [] := by
      intro empty
      rw [empty] at last
      cases last
    simp [some]
  | none =>
    rw [List.getLast?_eq_none_iff.mp last]
    simp

theorem unassigned_before (empty : valuesOf key.toList (everyAssignment (hist ++ [v])) = []) :
    valuesOf key.toList (everyAssignment hist) = [] := by
  rw [everyAssignment_snoc, valuesOf_append, List.append_eq_nil_iff] at empty
  exact empty.1

theorem Apart.types (apart : Apart hist) : ∀ slot ∈ slots, ∀ t,
    kind slot.1.toList (everyAssignment hist) = some t → t = slot.2.type := by
  have text {name : String} (notInt : kind name.toList (everyAssignment hist) ≠ some .int) :
      ∀ t, kind name.toList (everyAssignment hist) = some t → t = .str := by
    intro t first
    cases t with
    | int => exact absurd first notInt
    | str => rfl
    | bool => exact absurd first kind_ne_bool
  have number {name : String} (notStr : kind name.toList (everyAssignment hist) ≠ some .str) :
      ∀ t, kind name.toList (everyAssignment hist) = some t → t = .int := by
    intro t first
    cases t with
    | int => rfl
    | str => exact absurd first notStr
    | bool => exact absurd first kind_ne_bool
  intro slot mem
  simp only [slots, List.mem_cons, List.not_mem_nil, or_false] at mem
  rcases mem with rfl | rfl | rfl | rfl
  · exact text apart.texts.1
  · exact text apart.texts.2
  · exact number apart.numbers.1
  · exact number apart.numbers.2

theorem named_slot {slot : String × ConfOption} (mem : slot ∈ slots) : slot.1.toList ≠ [] := by
  simp only [slots, List.mem_cons, List.not_mem_nil, or_false] at mem
  rcases mem with rfl | rfl | rfl | rfl <;> decide

/-- The file is read as a whole, and then the options are handed on. -/
theorem load_parsed {st : ConfState} (typed : Typed (everyAssignment hist) st.options)
    (apart : Apart (hist ++ [v])) :
    ∃ options' : Options, Typed (everyAssignment (hist ++ [v])) options' ∧
      (∀ key ≠ [], options' key =
        latest (everyAssignment hist) v.assignments st.options key) ∧
      ∀ getLogDir, glusterBlockLoadConfig false getLogDir v.file st =
        glusterBlockConfSetOptions false getLogDir { st with options := options' } := by
  have here : v ∈ hist ++ [v] := by simp
  have readable : Readable (everyAssignment hist) v.assignments := by
    intro a mem
    have there : a ∈ everyAssignment (hist ++ [v]) := by
      rw [everyAssignment_snoc]
      exact List.mem_append_right _ mem
    refine ⟨apart.oneLine a there, fun int => ?_⟩
    rw [← everyAssignment_snoc] at int
    exact intValue_digit (apart.digits a there int)
  have uncut := apart.uncut v here
  rw [everyAssignment_snoc] at uncut
  obtain ⟨options', typed', found, run⟩ := parse_kept typed readable uncut
  rw [← everyAssignment_snoc] at typed'
  refine ⟨options', typed', found, fun getLogDir => ?_⟩
  unfold glusterBlockLoadConfig
  rw [if_neg (apart.written v here), readConfig_kept (apart.fits v here)]
  simp only [Option.bind_eq_bind, Option.bind_some]
  rw [run]
  rfl

/-- One load hands on what the version says. -/
theorem load_step {st : ConfState} (prepared : Prepared hist v st) (apart : Apart (hist ++ [v])) :
    ∃ st', glusterBlockLoadConfig false false v.file st = some st' ∧ Loaded (hist ++ [v]) st' ∧
      st'.cfg = receivedConfig hist v := by
  obtain ⟨options', typed', found, run⟩ := load_parsed prepared.typed apart
  have idle := prepared.defaults
  have types := apart.types
  have slot {α : Type} {name : String} {type : OptionType} {tag : α → OptValue} {dflt : α}
      {read : List Char → α} (mem : (name, ⟨type, tag dflt⟩) ∈ slots)
      (reads : ∀ text, readValue type text = tag (read text)) :
      options' name.toList = (received read dflt name hist v).map (fun x => ⟨type, tag x⟩) := by
    rw [found _ (named_slot mem)]
    exact latest_received (idle (name, ⟨type, tag dflt⟩) mem) (types (name, ⟨type, tag dflt⟩) mem) reads
  have dir : options' "GB_LOG_DIR".toList =
      (received strValue gbLogdirDef "GB_LOG_DIR" hist v).map (fun text => ⟨.str, .str text⟩) :=
    slot (by simp [slots]) (fun _ => rfl)
  have level : options' "GB_LOG_LEVEL".toList =
      (received strValue gbLogLevelDef "GB_LOG_LEVEL" hist v).map (fun text => ⟨.str, .str text⟩) :=
    slot (by simp [slots]) (fun _ => rfl)
  have lru : options' "GB_GLFS_LRU_COUNT".toList =
      (received number lruCountDef "GB_GLFS_LRU_COUNT" hist v).map (fun n => ⟨.int, .int n⟩) :=
    slot (by simp [slots]) (fun _ => rfl)
  have timeout : options' "GB_CLI_TIMEOUT".toList =
      (received number cliTimeoutDef "GB_CLI_TIMEOUT" hist v).map (fun n => ⟨.int, .int n⟩) :=
    slot (by simp [slots]) (fun _ => rfl)
  have conf : glusterBlockConfSetOptions false false { st with options := options' } = _ :=
    setOptions_found dir level lru timeout
  have text {r old : Option (List Char)} (untouched : r = none → old = none) : r.or old = r := by
    cases r with
    | none => exact untouched rfl
    | some _ => rfl
  have num {r : Option Int} {old : Int} (untouched : r = none → old = 0) : r.getD old = r.getD 0 := by
    cases r with
    | none => exact untouched rfl
    | some _ => rfl
  rw [text fun none => prepared.logDir (unassigned_before (received_none.mp none)),
    text fun none => prepared.logLevel (unassigned_before (received_none.mp none)),
    num fun none => prepared.lruCount (unassigned_before (received_none.mp none)),
    num fun none => prepared.cliTimeout (unassigned_before (received_none.mp none))] at conf
  refine ⟨⟨settled options', receivedConfig hist v⟩, (run false).trans conf, ?_, rfl⟩
  exact
    { typed := typed_settled typed' types
      defaults := fun s mem => by
        change settled options' s.1.toList = _
        rw [settled_slot mem, ← typed'.type _ (named_slot mem), Option.map_map]
        rfl
      logDir := received_none.mpr
      logLevel := received_none.mpr
      lruCount := fun empty => by
        change (received number lruCountDef _ hist v).getD 0 = 0
        rw [received_none.mpr empty]
        rfl
      cliTimeout := fun empty => by
        change (received number cliTimeoutDef _ hist v).getD 0 = 0
        rw [received_none.mpr empty]
        rfl }

/-- The first load only puts the default of the log directory back. Of the other keys, the
next version assigns what the first one did. -/
def Carried (first : ConfVersion) (next : List ConfVersion) : Prop :=
  ∀ v ∈ next.head?, ∀ slot ∈ slots, slot.1 ≠ "GB_LOG_DIR" →
    valuesOf slot.1.toList first.assignments ≠ [] → valuesOf slot.1.toList v.assignments ≠ []

theorem Carried.before (carried : Carried first (hist ++ [v])) : Carried first hist := by
  intro w head
  refine carried w ?_
  rw [List.head?_append, Option.mem_def.mp head]
  rfl

/-- The first load finds the log directory of its version. -/
theorem first_load (apart : Apart [first]) :
    ∃ options, glusterBlockDynConfigGetLogDir first.file ConfState.start.options =
        some (options, received strValue gbLogdirDef "GB_LOG_DIR" [] first) ∧
      ∀ v, Carried first [v] → Prepared [first] v { ConfState.start with options := options } := by
  have start : Typed (everyAssignment []) ConfState.start.options :=
    ⟨fun _ _ => rfl, fun _ _ o mem => by cases mem⟩
  have apart : Apart ([] ++ [first]) := apart
  obtain ⟨options', typed', found, run⟩ := load_parsed start apart
  have types := apart.types ("GB_LOG_DIR", ⟨.str, .str gbLogdirDef⟩) (by simp [slots])
  have dir : options' "GB_LOG_DIR".toList =
      (received strValue gbLogdirDef "GB_LOG_DIR" [] first).map (fun text => ⟨.str, .str text⟩) := by
    rw [found _ (by decide)]
    exact latest_received (fun _ => rfl) types (fun _ => rfl)
  have conf : glusterBlockConfSetOptions false true { ConfState.start with options := options' } =
      some { options := reset "GB_LOG_DIR" ⟨.str, .str gbLogdirDef⟩ options',
             cfg := { ConfState.start.cfg with
              logDir := received strValue gbLogdirDef "GB_LOG_DIR" [] first } } := by
    unfold glusterBlockConfSetOptions
    rw [parseCfgStr_found dir]
    simp [ConfState.start]
  refine ⟨reset "GB_LOG_DIR" ⟨.str, .str gbLogdirDef⟩ options', ?_, fun v carried => ?_⟩
  · unfold glusterBlockDynConfigGetLogDir
    rw [run, conf]
    rfl
  · refine ⟨typed_reset typed' (.inr ⟨rfl, _, rfl⟩) types, fun slot mem unassigned => ?_,
      fun _ => rfl, fun _ => rfl, fun _ => rfl, fun _ => rfl⟩
    have type := typed'.type _ (named_slot mem)
    by_cases logDir : slot.1 = "GB_LOG_DIR"
    · have slot : slot = ("GB_LOG_DIR", ⟨.str, .str gbLogdirDef⟩) := by
        simp only [slots, List.mem_cons, List.not_mem_nil, or_false] at mem
        rcases mem with same | same | same | same
        · exact same
        all_goals exact absurd (same ▸ logDir) (by decide)
      subst slot
      refine reset_self.trans ?_
      rw [show kind _ (everyAssignment [first]) = _ from type.symm, Option.map_map]
      rfl
    · have empty : valuesOf slot.1.toList first.assignments = [] := by
        by_contra assigned
        exact carried v rfl slot mem logDir assigned (List.getLast?_eq_none_iff.mp unassigned)
      have none : kind slot.1.toList (everyAssignment [first]) = none :=
        kind_eq_none.mpr (by simpa [everyAssignment] using empty)
      rw [none]
      rw [show kind _ (everyAssignment ([] ++ [first])) = _ from none] at type
      have other : slot.1.toList ≠ "GB_LOG_DIR".toList :=
        fun same => logDir (String.toList_injective same)
      exact (reset_of_ne other).trans (Option.map_eq_none_iff.mp type)

theorem loadVersions_snoc (first file : List Char) (files : List (List Char)) :
    loadVersions first (files ++ [file]) =
      (loadVersions first files).bind (glusterBlockLoadConfig false false file) := by
  simp only [loadVersions, Option.bind_eq_bind, Option.bind_assoc]
  refine Option.bind_congr (fun found _ => ?_)
  rw [List.foldlM_append]
  simp

/-- Every version is loaded, one after the other. -/
theorem load_run (apart : Apart (first :: hist)) (carried : Carried first hist) :
    ∃ st, loadVersions first.file (hist.map ConfVersion.file) = some st ∧
      ∀ v, Carried first (hist ++ [v]) → Prepared (first :: hist) v st := by
  induction hist using List.reverseRecOn with
  | nil =>
    obtain ⟨options, load, prepared⟩ := first_load apart
    refine ⟨_, ?_, prepared⟩
    rw [loadVersions, load]
    rfl
  | append_singleton hist v ih =>
    obtain ⟨st, before, prepared⟩ := ih (show Apart ((first :: hist) ++ [v]) from apart).front carried.before
    obtain ⟨st', step, loaded, _⟩ := load_step (prepared v carried) apart
    refine ⟨st', ?_, fun _ _ => loaded.prepared⟩
    rw [List.map_append, List.map_singleton, loadVersions_snoc, before]
    exact step

/-- When no line reaches into another one, the first load gives the log directory of its
version, the last version gives each key the value of its last assignment there, or the
default, and no option is read as what it is not. -/
theorem reload_last (apart : Apart (first :: hist ++ [v])) (carried : Carried first (hist ++ [v])) :
    (∃ options, glusterBlockDynConfigGetLogDir first.file ConfState.start.options =
      some (options, received strValue gbLogdirDef "GB_LOG_DIR" [] first)) ∧
    ∃ st, loadVersions first.file ((hist ++ [v]).map ConfVersion.file) = some st ∧
      st.cfg = receivedConfig (first :: hist) v ∧
      Typed (everyAssignment (first :: hist ++ [v])) st.options := by
  obtain ⟨st, before, prepared⟩ := load_run apart.front carried.before
  obtain ⟨st', step, loaded, cfg⟩ := load_step (prepared v carried) apart
  have dir : ∃ options, glusterBlockDynConfigGetLogDir first.file ConfState.start.options =
      some (options, received strValue gbLogdirDef "GB_LOG_DIR" [] first) := by
    obtain ⟨options, load, _⟩ := first_load (show Apart ([first] ++ (hist ++ [v])) from apart).front
    exact ⟨options, load⟩
  refine ⟨dir, st', ?_, cfg, loaded.typed⟩
  rw [List.map_append, List.map_singleton, loadVersions_snoc, before]
  exact step

theorem logDir_named : IsKey "GB_LOG_DIR".toList where
  nonempty := by decide
  first := by simp [isBlank]
  last := by simp [isBlank]
  plain := CText.forall_of_all (by decide)

theorem cliTimeout_named : IsKey "GB_CLI_TIMEOUT".toList where
  nonempty := by decide
  first := by simp [isBlank]
  last := by simp [isBlank]
  plain := CText.forall_of_all (by decide)

def logDirLine (value : String) (inLine : '\n' ∉ value.toList ∧ '\x00' ∉ value.toList) :
    Assignment where
  indent := []
  key := "GB_LOG_DIR".toList
  gap := []
  value := value.toList
  crlf := false
  indented := rfl
  spaced := rfl
  named := logDir_named
  inLine := inLine

def cliTimeoutLine (value : String) (inLine : '\n' ∉ value.toList ∧ '\x00' ∉ value.toList) :
    Assignment where
  indent := []
  key := "GB_CLI_TIMEOUT".toList
  gap := []
  value := value.toList
  crlf := false
  indented := rfl
  spaced := rfl
  named := cliTimeout_named
  inLine := inLine

def earlyVersion : ConfVersion where
  lines := [.assign (cliTimeoutLine "300" (by decide))]
  tail := none

/-- The timeout was deleted, and the log directory set. -/
def lateVersion : ConfVersion where
  lines := [.assign (cliTimeoutLine "" (by decide)), .assign (logDirLine "/var/log/7x" (by decide))]
  tail := none

def timedVersion : ConfVersion where
  lines := [.assign (cliTimeoutLine "60" (by decide))]
  tail := none

def quotedVersion : ConfVersion where
  lines := [.assign (logDirLine "\"/var/log/7x\"" (by decide))]
  tail := none

/-- The file is edited between the first load and the second one, and once more. -/
theorem reload_last_sample :
    (∃ options, glusterBlockDynConfigGetLogDir earlyVersion.file ConfState.start.options =
      some (options, received strValue gbLogdirDef "GB_LOG_DIR" [] earlyVersion)) ∧
    ∃ st, loadVersions earlyVersion.file (([timedVersion] ++ [quotedVersion]).map
      ConfVersion.file) = some st ∧
      st.cfg = receivedConfig [earlyVersion, timedVersion] quotedVersion ∧
      Typed (everyAssignment ([earlyVersion, timedVersion] ++ [quotedVersion])) st.options := by
  apply reload_last
  · exact
      { written := by decide
        fits := by decide
        oneLine := by decide
        digits := by decide
        uncut := by simp [earlyVersion, timedVersion, quotedVersion, ConfVersion.unfinished]
        texts := by decide
        numbers := by decide }
  · intro v head
    obtain rfl := Option.some.inj head
    decide

def bareVersion : ConfVersion where
  lines := [.assign (logDirLine "/var/log/7x" (by decide))]
  tail := none

/-- The first load leaves a timeout behind that the next version does not have. -/
example : (loadVersions timedVersion.file [bareVersion.file]).map (·.cfg.cliTimeout) = some 60 := by
  decide

/-- The search for a digit of the empty timeout ends in the next line, so that this line says
something else than on its own. -/
theorem reload_mixes :
    lastValue "GB_LOG_DIR".toList lateVersion.assignments =
      lastValue "GB_LOG_DIR".toList bareVersion.assignments ∧
    (loadVersions earlyVersion.file ([earlyVersion, lateVersion].map ConfVersion.file)).map
      (·.cfg.logDir) =
      some (some "/var/log/7".toList) ∧
    (loadVersions earlyVersion.file ([earlyVersion, bareVersion].map ConfVersion.file)).map
      (·.cfg.logDir) =
      some (some "/var/log/7x".toList) := by decide

end Reload

end GlusterBlock.DynConfig
