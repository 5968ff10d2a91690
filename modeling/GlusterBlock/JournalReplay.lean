import GlusterBlock.Lib.Weave
import GlusterBlock.MetaReader

/-! What a metafile says: the last value of every key, the first size that is
not zero, and for every host its last status and all its statuses in order.
The reader returns exactly this unless the last status of some host is too
long for the status field. -/
namespace GlusterBlock

open Weaving (Woven)
open CText (copy)

def MetaStatus.isResize : MetaStatus → Bool
  | .rsSuccess | .rsInprogress | .rsFail => true
  | _ => false

/-- A line as the updates of create, modify, resize, replace and of the per-host
part of delete write it. -/
def MetaLine.isUpdate : MetaLine → Bool
  | .entryDelete _ => false
  | .host a s n => (MetaLine.host a s n).writable && s.isResize == n.isSome
  | l => l.writable

def lastOf {α : Type} (pick : MetaLine → Option α) (start : α) (js : Journal) : α :=
  (js.filterMap pick).getLast?.getD start

def hostLine : MetaLine → Option (Addr × (MetaStatus × Option Nat))
  | .host a s n => some (a, (s, n))
  | _ => none

def hostLines (js : Journal) : List (Addr × (MetaStatus × Option Nat)) := js.filterMap hostLine

def statuses (js : Journal) (addr : Addr) : List (MetaStatus × Option Nat) :=
  Ledger.records addr (hostLines js)

/-- The entry of a host: all its statuses as written, and the last one. -/
def hostEntry (js : Journal) (addr : Addr) : NodeInfo where
  addr := addr
  stJournal := (statuses js addr).map (fun w => statusText w.1 w.2)
  status := ((statuses js addr).getLast?.map (fun w => metaStatusLookup w.1)).getD ""
  size := ((statuses js addr).getLast?.bind (fun w => w.2)).getD 0

def sizeOf? : MetaLine → Option Nat
  | .size n => some n
  | _ => none

/-- The info holds what the lines say. -/
structure Replayed (js : Journal) (info : MetaInfo) : Prop where
  volume : info.volume = lastOf (fun | .volume v => some v | _ => none) "" js
  gbid : info.gbid = lastOf (fun | .gbid g => some g | _ => none) "" js
  size : info.size = lastOf sizeOf? 0 js
  initialSize : info.initialSize = ((js.filterMap sizeOf?).find? (· != 0)).getD 0
  rbSize : info.rbSize = lastOf (fun | .ringBuffer n => some n | _ => none) 0 js
  blkSize : info.blkSize = lastOf (fun | .blkSize n => some n | _ => none) 0 js
  ioTimeout : info.ioTimeout = lastOf (fun | .ioTimeout n => some n | _ => none) 0 js
  prioPath : info.prioPath = lastOf (fun | .prioPath a => some a | _ => none) "" js
  mpath : info.mpath = lastOf (fun | .ha n => some n | _ => none) 0 js
  entry : info.entry = lastOf (fun | .entryCreate e => some e.text | _ => none) "" js
  passwd : info.passwd = lastOf (fun | .passwd p => some p | _ => none) "" js
  list : info.list = (Ledger.mentions (hostLines js)).map (hostEntry js)

section Keys

/-- A field that one kind of line sets holds the last value written. -/
theorem foldl_last {α : Type} (field : MetaInfo → α) (pick : MetaLine → Option α)
    (step : ∀ info l, field (stuff info l) = (pick l).getD (field info)) (js : Journal)
    (info : MetaInfo) : field (js.foldl stuff info) = lastOf pick (field info) js := by
  induction js using List.reverseRecOn with
  | nil => rfl
  | append_singleton js l ih =>
    rw [List.foldl_concat, step, ih, lastOf, lastOf, List.filterMap_append]
    cases h : pick l with
    | none => simp [h]
    | some v => simp [h]

theorem foldl_initialSize (js : Journal) :
    (js.foldl stuff {}).initialSize = ((js.filterMap sizeOf?).find? (· != 0)).getD 0 := by
  induction js using List.reverseRecOn with
  | nil => rfl
  | append_singleton js l ih =>
    rw [List.foldl_concat, List.filterMap_append, List.find?_append]
    cases l with
    | size n =>
      have set : (stuff (js.foldl stuff {}) (.size n)).initialSize =
          if (js.foldl stuff {}).initialSize = 0 then n
          else (js.foldl stuff {}).initialSize := rfl
      rw [set, ih]
      cases hf : (js.filterMap sizeOf?).find? (· != 0) with
      | none =>
        by_cases hn : n = 0
        · subst n
          rfl
        · simp [sizeOf?, hn]
      | some m =>
        have hm : m ≠ 0 := by simpa using List.find?_some hf
        simp [hm]
    | _ => simpa [stuff, sizeOf?] using ih

end Keys

section Hosts

/-- Without the backing file's marker the host lines are all the mentions. -/
theorem hostLog_eq (js : Journal) (updates : ∀ l ∈ js, l.isUpdate = true) :
    hostLog js = (hostLines js).map (fun r => (r.1, statusText r.2.1 r.2.2)) := by
  rw [hostLog, hostLines, List.map_filterMap]
  refine List.filterMap_congr (fun l hl => ?_)
  cases l with
  | entryDelete e => exact absurd (updates _ hl) Bool.false_ne_true
  | _ => rfl

theorem mentions_eq {js : Journal} (updates : ∀ l ∈ js, l.isUpdate = true) :
    Ledger.mentions (hostLog js) = Ledger.mentions (hostLines js) := by
  rw [hostLog_eq js updates, Ledger.mentions, Ledger.mentions, List.map_map]
  rfl

theorem hostTexts_eq {js : Journal} (updates : ∀ l ∈ js, l.isUpdate = true) (addr : Addr) :
    hostTexts js addr = (statuses js addr).map (fun w => statusText w.1 w.2) := by
  rw [hostTexts, hostLog_eq js updates, statuses]
  simp only [Ledger.records, List.filter_map, List.map_map]
  rfl

theorem statuses_update {js : Journal} (updates : ∀ l ∈ js, l.isUpdate = true) {addr : Addr}
    {status : MetaStatus} {size : Option Nat} (h : (status, size) ∈ statuses js addr) :
    status.isResize = size.isSome ∧ size.all (· < 2 ^ 64) = true := by
  simp only [statuses, Ledger.records, hostLines, List.mem_map, List.mem_filter,
    List.mem_filterMap] at h
  obtain ⟨r, ⟨⟨l, hl, hr⟩, _⟩, hw⟩ := h
  cases l with
  | host a s n =>
    simp only [hostLine, Option.some.injEq] at hr
    subst r
    cases hw
    have hu := updates _ hl
    simp only [MetaLine.isUpdate, MetaLine.writable, Bool.and_eq_true, beq_iff_eq] at hu
    exact ⟨hu.2, hu.1.2⟩
  | _ => cases hr

theorem parse_text (node : NodeInfo) (status : MetaStatus) (size : Option Nat)
    (small : size.all (· < 2 ^ 64) = true) :
    NodeInfo.parseRSstatus { node with status := statusText status size, size := 0 } =
      { node with status := metaStatusLookup status, size := size.getD 0 } := by
  have word := statusWord_text status size
  cases size with
  | none =>
    have absent : CText.after '-' (metaStatusLookup status).toList = none :=
      CText.after_none (lookup_no_dash status)
    simp [NodeInfo.parseRSstatus, statusText, absent]
  | some n =>
    have dash : (statusText status (some n)).toList =
        (metaStatusLookup status).toList ++ '-' :: Nat.toDigits 10 n := by
      simp [statusText]
    have hn : n ≤ CText.maxSize := Nat.le_pred_of_lt (by simpa using small)
    have found : CText.after '-' (statusText status (some n)).toList = some (Nat.toDigits 10 n) :=
      dash ▸ CText.after_of (lookup_no_dash status)
    simp [NodeInfo.parseRSstatus, found, word, CText.scanZu_digits hn]

theorem keptText_snoc (texts : List String) (text : String) :
    keptText (texts ++ [text]) = copy 32 (keptText texts) text := by
  rw [keptText, List.foldl_append]
  rfl

/-- The field holds the empty text or one of the texts that fit. -/
theorem keptText_mem (texts : List String) :
    keptText texts = "" ∨ keptText texts ∈ texts ∧ (keptText texts).length ≤ 31 := by
  induction texts using List.reverseRecOn with
  | nil => exact .inl rfl
  | append_singleton texts text ih =>
    rw [keptText_snoc]
    by_cases fits : text.length ≤ 32 - 1
    · rw [CText.copy_fits fits]
      exact .inr ⟨List.mem_append_right _ List.mem_cons_self, fits⟩
    · rw [CText.copy_long (Nat.lt_of_not_le fits)]
      exact ih.imp id (And.imp (List.mem_append_left _) id)

/-- The last status of the host fits the field, terminator included. -/
def lastFits (js : Journal) (addr : Addr) : Prop :=
  ∀ w, (statuses js addr).getLast? = some w → (statusText w.1 w.2).length ≤ 31

theorem entry_fits {js : Journal} (updates : ∀ l ∈ js, l.isUpdate = true) {addr : Addr}
    (fits : lastFits js addr) : (rawNode js addr).parseRSstatus = hostEntry js addr := by
  rw [rawNode, hostTexts_eq updates]
  cases hlast : (statuses js addr).getLast? with
  | none =>
    have empty : statuses js addr = [] := List.getLast?_eq_none_iff.mp hlast
    rw [hostEntry, empty]
    rfl
  | some w =>
    obtain ⟨before, hbefore⟩ := List.getLast?_eq_some_iff.mp hlast
    have small := (statuses_update updates (List.mem_of_getLast? hlast)).2
    have short : (statusText w.1 w.2).length ≤ 32 - 1 := fits w hlast
    have kept : keptText ((statuses js addr).map (fun w => statusText w.1 w.2)) =
        statusText w.1 w.2 := by
      rw [hbefore, List.map_append, List.map_singleton, keptText_snoc, CText.copy_fits short]
    rw [kept, hostEntry, hlast]
    exact parse_text { addr := addr, stJournal := _ } w.1 w.2 small

/-- A last status that does not fit is not what the entry shows: the kept text
is shorter, so it differs in its word or in its size. -/
theorem entry_long {js : Journal} (updates : ∀ l ∈ js, l.isUpdate = true) {addr : Addr}
    (same : (rawNode js addr).parseRSstatus = hostEntry js addr) : lastFits js addr := by
  intro w hlast
  by_contra long
  have hw := statuses_update updates (List.mem_of_getLast? hlast)
  have shown := congrArg NodeInfo.status same
  have size := congrArg NodeInfo.size same
  rw [rawNode, hostTexts_eq updates] at shown size
  rcases keptText_mem ((statuses js addr).map (fun w => statusText w.1 w.2)) with empty | kept
  · rw [parseRSstatus_status, empty, hostEntry, hlast] at shown
    have word : metaStatusLookup w.1 = "" := shown.symm
    have named : metaStatusLookup w.1 ≠ "" := by cases w.1 <;> decide
    exact named word
  · obtain ⟨member, short⟩ := kept
    obtain ⟨v, hv, text⟩ := List.mem_map.mp member
    have hvu := statuses_update updates hv
    rw [← text] at shown size short
    rw [parse_text { addr := addr, stJournal := _ } v.1 v.2 hvu.2, hostEntry, hlast] at shown size
    have word : v.1 = w.1 := by
      have parsed := congrArg blockMetaStatusEnumParse (show
        metaStatusLookup v.1 = metaStatusLookup w.1 from shown)
      simpa using parsed
    have number : v.2.getD 0 = w.2.getD 0 := size
    have both : v.2.isSome = w.2.isSome := by rw [← hvu.1, ← hw.1, word]
    have equal : v.2 = w.2 := by
      cases hv2 : v.2 with
      | none => cases hw2 : w.2 with
        | none => rfl
        | some n => simp [hv2, hw2] at both
      | some m => cases hw2 : w.2 with
        | none => simp [hv2, hw2] at both
        | some n => simpa [hv2, hw2] using number
    exact long (word ▸ equal ▸ short)

end Hosts

section Phases

/-- Two threads that write for different hosts. -/
def Apart (ts : List Journal) : Prop :=
  ∀ (i j : Nat) (t s : Journal), i ≠ j → ts[i]? = some t → ts[j]? = some s →
    ∀ l ∈ t, ∀ m ∈ s, ∀ a v b w, hostLine l = some (a, v) → hostLine m = some (b, w) → a ≠ b

/-- Two journals of the same operations: in every phase the same threads, each
for its own host, interleaved in two ways. A phase without threads of its own is
one thread. -/
inductive SamePhases : Journal → Journal → Prop where
  | start : SamePhases [] []
  | phase {js js' es es' : Journal} {ts : List Journal} :
      SamePhases js js' → Apart ts → Woven ts es → Woven ts es' →
        SamePhases (js ++ es) (js' ++ es')

def isFor (addr : Addr) (l : MetaLine) : Bool := (hostLine l).any (fun r => r.1 == addr)

theorem statuses_filter (js : Journal) (addr : Addr) :
    statuses (js.filter (isFor addr)) addr = statuses js addr := by
  induction js with
  | nil => rfl
  | cons l js ih =>
    have one : statuses (l :: js) addr = statuses [l] addr ++ statuses js addr := by
      rw [statuses, hostLines, ← List.singleton_append, List.filterMap_append,
        Ledger.records_append]
      rfl
    by_cases hl : isFor addr l = true
    · have kept : statuses (l :: js.filter (isFor addr)) addr =
          statuses [l] addr ++ statuses (js.filter (isFor addr)) addr := by
        rw [statuses, hostLines, ← List.singleton_append, List.filterMap_append,
          Ledger.records_append]
        rfl
      rw [List.filter_cons_of_pos hl, kept, one, ih]
    · have none : statuses [l] addr = [] := by
        cases l with
        | host a s n =>
          have ha : ¬ a = addr := by simpa [isFor, hostLine] using hl
          simp [statuses, hostLines, hostLine, Ledger.records_single, ha]
        | _ => rfl
      rw [List.filter_cons_of_neg hl, ih, one, none, List.nil_append]

theorem statuses_append (js es : Journal) (addr : Addr) :
    statuses (js ++ es) addr = statuses js addr ++ statuses es addr := by
  rw [statuses, hostLines, List.filterMap_append, Ledger.records_append]
  rfl

/-- The statuses of a host do not depend on how the threads interleave. -/
theorem statuses_woven {ts : List Journal} {es es' : Journal} (apart : Apart ts)
    (h : Woven ts es) (h' : Woven ts es') (addr : Addr) :
    statuses es addr = statuses es' addr := by
  have filtered : es.filter (isFor addr) = es'.filter (isFor addr) := by
    by_cases owned : ∃ t ∈ ts, ∃ l ∈ t, isFor addr l = true
    · obtain ⟨t, ht, l, hl, hfor⟩ := owned
      obtain ⟨i, hi⟩ := List.getElem?_of_mem ht
      have alone : ∀ j s, j ≠ i → ts[j]? = some s → ∀ m ∈ s, isFor addr m = false := by
        intro j s hne hj m hm
        obtain ⟨⟨a, v⟩, hv, ha⟩ := (Option.any_eq_true _ _).mp hfor
        cases hw : hostLine m with
        | none => rw [isFor, hw]; rfl
        | some r =>
          obtain ⟨b, w⟩ := r
          have differ := apart i j t s (Ne.symm hne) hi hj l hl m hm a v b w hv hw
          have same : a = addr := by simpa using ha
          simpa [isFor, hw] using fun e : b = addr => differ (same.trans e.symm)
      rw [Weaving.woven_owner h _ i t hi alone, Weaving.woven_owner h' _ i t hi alone]
    · have none : ∀ t ∈ ts, ∀ l ∈ t, isFor addr l = false := by
        intro t ht l hl
        cases hf : isFor addr l with
        | false => rfl
        | true => exact absurd ⟨t, ht, l, hl, hf⟩ owned
      rw [Weaving.woven_absent h _ none, Weaving.woven_absent h' _ none]
  rw [← statuses_filter es, ← statuses_filter es', filtered]

theorem samePhases_statuses {js js' : Journal} (same : SamePhases js js') (addr : Addr) :
    statuses js addr = statuses js' addr := by
  induction same with
  | start => rfl
  | phase _ apart h h' ih =>
    rw [statuses_append, statuses_append, ih, statuses_woven apart h h']

theorem samePhases_mem {js js' : Journal} (same : SamePhases js js') (l : MetaLine) :
    l ∈ js ↔ l ∈ js' := by
  induction same with
  | start => exact Iff.rfl
  | phase _ _ h h' ih =>
    rw [List.mem_append, List.mem_append, ih, Weaving.woven_mem h, Weaving.woven_mem h']

end Phases

section Exact

/-- The last status of the host is `RSINPROGRESS` with a size of 19 digits or more. -/
def lastOverlong (js : Journal) (addr : Addr) : Prop :=
  ∃ size, (statuses js addr).getLast? = some (.rsInprogress, some size) ∧ 10 ^ 18 ≤ size

theorem update_fits {status : MetaStatus} {size : Option Nat}
    (resize : status.isResize = size.isSome) (small : size.all (· < 2 ^ 64) = true) :
    (statusText status size).length ≤ 31 ↔
      ¬ ∃ n, status = .rsInprogress ∧ size = some n ∧ 10 ^ 18 ≤ n := by
  cases size with
  | none =>
    have word : (metaStatusLookup status).length ≤ 31 :=
      Nat.le_trans (lookup_short status) (by decide)
    simpa [statusText] using word
  | some n =>
    have parts : (statusText status (some n)).length =
        (metaStatusLookup status).length + 1 + (toString n).length := by
      have dash : "-".length = 1 := by decide
      simp only [statusText, String.length_append, dash]
    have digits := number_length (n := n) (by simpa using small)
    have ten : (toString n).length ≤ 18 ↔ n < 10 ^ 18 := by
      rw [Nat.toString_eq_repr, Nat.length_repr_le_iff (by decide)]
    rw [parts]
    cases status with
    | rsInprogress =>
      have word : (metaStatusLookup .rsInprogress).length = 12 := by decide
      rw [word]
      constructor
      · rintro short ⟨m, _, hm, big⟩
        cases hm
        omega
      · intro notBig
        have : n < 10 ^ 18 := Nat.lt_of_not_le (fun big => notBig ⟨n, rfl, rfl, big⟩)
        omega
    | rsSuccess =>
      have word : (metaStatusLookup .rsSuccess).length = 9 := by decide
      rw [word]
      refine ⟨?_, fun _ => by omega⟩
      rintro _ ⟨_, other, _⟩
      cases other
    | rsFail =>
      have word : (metaStatusLookup .rsFail).length = 6 := by decide
      rw [word]
      refine ⟨?_, fun _ => by omega⟩
      rintro _ ⟨_, other, _⟩
      cases other
    | _ => cases resize

theorem lastFits_iff {js : Journal} (updates : ∀ l ∈ js, l.isUpdate = true) (addr : Addr) :
    lastFits js addr ↔ ¬ lastOverlong js addr := by
  constructor
  · rintro fits ⟨n, hlast, big⟩
    have hw := statuses_update updates (List.mem_of_getLast? hlast)
    exact (update_fits hw.1 hw.2).mp (fits _ hlast) ⟨n, rfl, rfl, big⟩
  · rintro notLong ⟨s, n⟩ hlast
    have hw := statuses_update updates (List.mem_of_getLast? hlast)
    refine (update_fits hw.1 hw.2).mpr ?_
    rintro ⟨m, rfl, rfl, big⟩
    exact notLong ⟨m, hlast, big⟩

theorem updates_writable {js : Journal} (updates : ∀ l ∈ js, l.isUpdate = true) :
    ∀ l ∈ js, l.writable = true := by
  intro l hl
  have hu := updates l hl
  cases l with
  | entryDelete e => rfl
  | host a s n => exact (Bool.and_eq_true _ _ ▸ hu).1
  | _ => exact hu

theorem replayed_iff {js : Journal} (updates : ∀ l ∈ js, l.isUpdate = true) :
    Replayed js (replay js) ↔ ∀ addr, ¬ lastOverlong js addr := by
  have unmentioned : ∀ addr, addr ∉ Ledger.mentions (hostLines js) → lastFits js addr := by
    intro addr h w hlast
    rw [statuses, Ledger.records_eq_nil h] at hlast
    cases hlast
  constructor
  · intro replayed addr
    rw [← lastFits_iff updates]
    by_cases mentioned : addr ∈ Ledger.mentions (hostLines js)
    · have entries := replayed.list
      rw [replay_list, mentions_eq updates] at entries
      exact entry_long updates (List.map_inj_left.mp entries addr mentioned)
    · exact unmentioned addr mentioned
  · intro none
    have entries : (replay js).list = (Ledger.mentions (hostLines js)).map (hostEntry js) := by
      rw [replay_list, mentions_eq updates]
      exact List.map_congr_left (fun addr _ =>
        entry_fits updates ((lastFits_iff updates addr).mpr (none addr)))
    have last : ∀ {α : Type} (field : MetaInfo → α) (pick : MetaLine → Option α)
        (_ : ∀ info, field (blockParseRSstatus info) = field info)
        (_ : ∀ info l, field (stuff info l) = (pick l).getD (field info)),
        field (replay js) = lastOf pick (field {}) js := by
      intro α field pick parse step
      rw [replay, parse, foldl_last field pick step]
    refine ⟨?_, ?_, ?_, foldl_initialSize js, ?_, ?_, ?_, ?_, ?_, ?_, ?_, entries⟩ <;>
      exact last _ _ (fun _ => rfl) (fun _ l => by cases l <;> rfl)

/-- Reading back a journal of updates, and reading it back after any other
interleaving of the same threads, gives what the lines say exactly when no host
ends with an overlong status. -/
theorem journal_read_back (js js' : Journal) (updates : ∀ l ∈ js, l.isUpdate = true)
    (same : SamePhases js js') (line line' : List Char) :
    (∃ info info', blockGetMetaInfo line (render js) = some info ∧
      blockGetMetaInfo line' (render js') = some info' ∧
      Replayed js info ∧ Replayed js' info' ∧
      ∀ node, node ∈ info.list ↔ node ∈ info'.list) ↔
    ∀ addr, ¬ lastOverlong js addr := by
  have updates' : ∀ l ∈ js', l.isUpdate = true :=
    fun l hl => updates l ((samePhases_mem same l).mpr hl)
  have overlong : ∀ addr, lastOverlong js' addr ↔ lastOverlong js addr := by
    intro addr
    rw [lastOverlong, lastOverlong, samePhases_statuses same]
  rw [blockGetMetaInfo_render js (updates_writable updates),
    blockGetMetaInfo_render js' (updates_writable updates')]
  constructor
  · rintro ⟨info, info', hinfo, _, replayed, _⟩
    cases hinfo
    exact (replayed_iff updates).mp replayed
  · intro none
    have replayed := (replayed_iff updates).mpr none
    have replayed' := (replayed_iff updates').mpr (fun addr => mt (overlong addr).mp (none addr))
    refine ⟨_, _, rfl, rfl, replayed, replayed', fun node => ?_⟩
    have mentions : ∀ addr, addr ∈ Ledger.mentions (hostLines js) ↔
        addr ∈ Ledger.mentions (hostLines js') := by
      intro addr
      simp only [Ledger.mem_mentions, hostLines, List.mem_filterMap, samePhases_mem same]
    have entry : hostEntry js = hostEntry js' := by
      funext addr
      rw [hostEntry, hostEntry, samePhases_statuses same]
    rw [replayed.list, replayed'.list, entry, List.mem_map, List.mem_map]
    simp only [mentions]

theorem samePhases_thread (js : Journal) : SamePhases js js := by
  have apart : Apart [js] := by
    intro i j t s hne hi hj
    have single : ∀ {k : Nat} {u : Journal}, [js][k]? = some u → k = 0 := by
      intro k u h
      have bound := (List.getElem?_eq_some_iff.mp h).1
      simpa using bound
    exact absurd ((single hi).trans (single hj).symm) hne
  have woven : Woven [js] js := by simpa using Weaving.woven_flatten [js]
  exact .phase .start apart woven woven

def createdLines : Journal :=
  [.volume "vol", .gbid "6b60c53c-8ce0-4d8d-a42c-5b546bca3d09", .ha 2, .entryCreate .inprogress,
   .size 1048576, .ringBuffer 0, .blkSize 0, .entryCreate .success]

def createThreads : List Journal :=
  [[.host "10.0.0.1" .configInprogress none, .host "10.0.0.1" .configSuccess none],
   [.host "10.0.0.2" .configInprogress none, .host "10.0.0.2" .configFail none]]

theorem createThreads_apart : Apart createThreads := by
  have addrs : ∀ (i : Nat) (t : Journal), createThreads[i]? = some t → ∀ l ∈ t, ∀ a v,
      hostLine l = some (a, v) → i = 0 ∧ a = "10.0.0.1" ∨ i = 1 ∧ a = "10.0.0.2" := by
    intro i t hi l hl a v hv
    match i with
    | 0 =>
      cases hi
      rcases List.mem_cons.mp hl with rfl | hl
      · cases hv; exact .inl ⟨rfl, rfl⟩
      · cases List.mem_singleton.mp hl; cases hv; exact .inl ⟨rfl, rfl⟩
    | 1 =>
      cases hi
      rcases List.mem_cons.mp hl with rfl | hl
      · cases hv; exact .inr ⟨rfl, rfl⟩
      · cases List.mem_singleton.mp hl; cases hv; exact .inr ⟨rfl, rfl⟩
    | i + 2 => cases hi
  intro i j t s hne hi hj l hl m hm a v b w hv hw
  rcases addrs i t hi l hl a v hv with ⟨rfl, rfl⟩ | ⟨rfl, rfl⟩ <;>
    rcases addrs j s hj m hm b w hw with ⟨rfl, rfl⟩ | ⟨rfl, rfl⟩
  · exact absurd rfl hne
  · decide
  · decide
  · exact absurd rfl hne

theorem journal_read_back_create :
    (∃ info info',
      blockGetMetaInfo [] (render (createdLines ++ Weaving.weave [0, 1, 0, 1] createThreads)) =
        some info ∧
      blockGetMetaInfo [] (render (createdLines ++ Weaving.weave [1, 1] createThreads)) =
        some info' ∧
      Replayed (createdLines ++ Weaving.weave [0, 1, 0, 1] createThreads) info ∧
      Replayed (createdLines ++ Weaving.weave [1, 1] createThreads) info' ∧
      ∀ node, node ∈ info.list ↔ node ∈ info'.list) ↔
    ∀ addr, ¬ lastOverlong (createdLines ++ Weaving.weave [0, 1, 0, 1] createThreads) addr :=
  journal_read_back _ _ (by decide)
    (.phase (samePhases_thread createdLines) createThreads_apart
      (Weaving.weave_woven _ _) (Weaving.weave_woven _ _)) [] []

def overlongLines : Journal :=
  [.host "10.0.0.1" .configInprogress none, .host "10.0.0.1" .configSuccess none,
   .size (10 ^ 18), .host "10.0.0.1" .rsInprogress (some (10 ^ 18))]

/-- While a node is being resized to 10^18 bytes its entry keeps the status of
before the resize. -/
theorem overlong_not_read_back :
    (∀ l ∈ createdLines ++ overlongLines, l.isUpdate = true) ∧
      SamePhases (createdLines ++ overlongLines) (createdLines ++ overlongLines) ∧
      ¬ ∃ info, blockGetMetaInfo [] (render (createdLines ++ overlongLines)) = some info ∧
        Replayed (createdLines ++ overlongLines) info := by
  have updates : ∀ l ∈ createdLines ++ overlongLines, l.isUpdate = true := by decide
  refine ⟨updates, samePhases_thread _, ?_⟩
  rintro ⟨info, hinfo, replayed⟩
  rw [blockGetMetaInfo_render _ (updates_writable updates)] at hinfo
  cases hinfo
  exact (replayed_iff updates).mp replayed "10.0.0.1" ⟨10 ^ 18, by decide, Nat.le_refl _⟩

end Exact

end GlusterBlock
