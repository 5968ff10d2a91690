import GlusterBlock.Lib.CText
import GlusterBlock.Lib.Ledger
import GlusterBlock.Status

/-! The metafile of a block as the list of its lines, and what replaying it
gives. A line written for a host keeps a status word and, for a resize, the
requested size behind a dash. -/
namespace GlusterBlock

open CText (copy)

abbrev Addr := String

inductive EntryState where
  | inprogress | success | fail
  deriving DecidableEq, Repr

def EntryState.text : EntryState → String
  | .inprogress => "INPROGRESS"
  | .success => "SUCCESS"
  | .fail => "FAIL"

inductive MetaLine where
  | volume (volume : String)
  | gbid (gbid : String)
  | ha (mpath : Nat)
  | entryCreate (state : EntryState)
  | prioPath (addr : String)
  | size (size : Nat)
  | ringBuffer (rbSize : Nat)
  | blkSize (blkSize : Nat)
  | ioTimeout (ioTimeout : Nat)
  | passwd (passwd : String)
  | entryDelete (state : EntryState)
  | host (addr : Addr) (status : MetaStatus) (size : Option Nat)
  deriving DecidableEq, Repr

abbrev Journal := List MetaLine

structure NodeInfo where
  addr : Addr := ""
  stJournal : List String := []
  status : String := ""
  size : Nat := 0
  deriving DecidableEq, Repr

structure MetaInfo where
  volume : String := ""
  gbid : String := ""
  size : Nat := 0
  initialSize : Nat := 0
  rbSize : Nat := 0
  blkSize : Nat := 0
  ioTimeout : Nat := 0
  prioPath : String := ""
  mpath : Nat := 0
  entry : String := ""
  passwd : String := ""
  list : List NodeInfo := []
  deriving DecidableEq, Repr

def MetaInfo.nhosts (info : MetaInfo) : Nat := info.list.length

/-- The text of a host line behind the address: `RSFAIL-4096`, `CONFIGSUCCESS`. -/
def statusText (status : MetaStatus) : Option Nat → String
  | none => metaStatusLookup status
  | some size => metaStatusLookup status ++ "-" ++ toString size

/-- The status field has 32 bytes; a longer text leaves the old status in place. -/
def NodeInfo.put (node : NodeInfo) (text : String) : NodeInfo :=
  { node with stJournal := node.stJournal ++ [text], status := copy 32 node.status text }

/-- A mention of a host, by the lines that replay takes for one. The marker of
the backing file is not a key the replay knows, so it counts as a host. -/
def hostRecord : MetaLine → Option (Addr × String)
  | .host addr status size => some (addr, statusText status size)
  | .entryDelete state => some ("ENTRYDELETE", state.text)
  | _ => none

def putHost : List NodeInfo → Addr → String → List NodeInfo :=
  Ledger.upsert NodeInfo.addr (fun addr => { addr := addr }) NodeInfo.put

def stuff (info : MetaInfo) : MetaLine → MetaInfo
  | .volume v => { info with volume := v }
  | .gbid g => { info with gbid := g }
  | .ha n => { info with mpath := n }
  | .entryCreate e => { info with entry := e.text }
  | .prioPath a => { info with prioPath := a }
  | .size n =>
    { info with size := n, initialSize := if info.initialSize = 0 then n else info.initialSize }
  | .ringBuffer n => { info with rbSize := n }
  | .blkSize n => { info with blkSize := n }
  | .ioTimeout n => { info with ioTimeout := n }
  | .passwd p => { info with passwd := p }
  | .entryDelete e => { info with list := putHost info.list "ENTRYDELETE" e.text }
  | .host a s n => { info with list := putHost info.list a (statusText s n) }

/-- The part of a status in front of the dash. -/
def statusWord (status : String) : String :=
  String.ofList (status.toList.takeWhile (· != '-'))

def NodeInfo.parseRSstatus (node : NodeInfo) : NodeInfo :=
  match CText.after '-' node.status.toList with
  | none => node
  | some s => { node with status := statusWord node.status, size := (CText.scanZu s).getD node.size }

def blockParseRSstatus (info : MetaInfo) : MetaInfo :=
  { info with list := info.list.map NodeInfo.parseRSstatus }

/-- `blockGetMetaInfo` on the lines of a file. -/
def replay (js : Journal) : MetaInfo := blockParseRSstatus (js.foldl stuff {})

def blockGetAddrStatusFromInfo (info : MetaInfo) (addr : Addr) : Option MetaStatus :=
  match info.list.find? (fun node => node.addr == addr) with
  | some node => blockMetaStatusEnumParse node.status
  | none => none

/-- The status of a host that the replay of a journal shows. -/
def latest (js : Journal) (addr : Addr) : Option MetaStatus :=
  blockGetAddrStatusFromInfo (replay js) addr

def isValidAt (js : Journal) (addr : Addr) : Bool := (latest js addr).any MetaStatus.isValid

def validHosts (js : Journal) : List Addr :=
  ((replay js).list.filter (fun node => blockhostIsValid node.status)).map NodeInfo.addr

section Replay

theorem foldl_stuff_list (js : Journal) (info : MetaInfo) :
    (js.foldl stuff info).list =
      (js.filterMap hostRecord).foldl (fun vs r => putHost vs r.1 r.2) info.list := by
  induction js generalizing info with
  | nil => rfl
  | cons l js ih =>
    rw [List.foldl_cons, ih]
    cases l <;> rfl

def hostLog (js : Journal) : List (Addr × String) := js.filterMap hostRecord

def hostTexts (js : Journal) (addr : Addr) : List String := Ledger.records addr (hostLog js)

/-- The status text the 32 byte field holds after these lines. -/
def keptText (texts : List String) : String := texts.foldl (copy 32) ""

def rawNode (js : Journal) (addr : Addr) : NodeInfo :=
  { addr := addr, stJournal := hostTexts js addr, status := keptText (hostTexts js addr) }

theorem foldl_put (texts : List String) (node : NodeInfo) :
    texts.foldl NodeInfo.put node =
      { node with
        stJournal := node.stJournal ++ texts, status := texts.foldl (copy 32) node.status } := by
  induction texts generalizing node with
  | nil => simp
  | cons t texts ih =>
    rw [List.foldl_cons, ih]
    simp [NodeInfo.put]

/-- One entry a host, in the order of first mention, made of its own lines alone. -/
theorem replay_list (js : Journal) :
    (replay js).list =
      (Ledger.mentions (hostLog js)).map (fun addr => (rawNode js addr).parseRSstatus) := by
  have raw : (js.foldl stuff {}).list = (Ledger.mentions (hostLog js)).map (rawNode js) := by
    rw [foldl_stuff_list]
    have keys : ∀ (node : NodeInfo) text, (node.put text).addr = node.addr := fun _ _ => rfl
    have fresh : ∀ addr : Addr, NodeInfo.addr { addr := addr } = addr := fun _ => rfl
    refine (Ledger.table_eq fresh keys (hostLog js)).trans
      (List.map_congr_left (fun addr _ => ?_))
    rw [foldl_put]
    rfl
  rw [replay, blockParseRSstatus, raw, List.map_map]
  rfl

@[simp] theorem parseRSstatus_addr (node : NodeInfo) : node.parseRSstatus.addr = node.addr := by
  unfold NodeInfo.parseRSstatus
  split <;> rfl

@[simp] theorem parseRSstatus_stJournal (node : NodeInfo) :
    node.parseRSstatus.stJournal = node.stJournal := by
  unfold NodeInfo.parseRSstatus
  split <;> rfl

theorem statusWord_of_after_none {text : String} (h : CText.after '-' text.toList = none) :
    statusWord text = text := by
  have all : ∀ (cs : List Char), CText.after '-' cs = none → cs.takeWhile (· != '-') = cs := by
    intro cs
    induction cs with
    | nil => intro _; rfl
    | cons c cs ih =>
      intro hn
      by_cases hc : c = '-'
      · simp [CText.after, hc] at hn
      · rw [CText.after, if_neg hc] at hn
        simp [hc, ih hn]
  rw [statusWord, all _ h, String.ofList_toList]

theorem parseRSstatus_status (node : NodeInfo) :
    node.parseRSstatus.status = statusWord node.status := by
  unfold NodeInfo.parseRSstatus
  split
  · rename_i h
    exact (statusWord_of_after_none h).symm
  · rfl

end Replay

section Latest

def lastText (js : Journal) (addr : Addr) : String := keptText (hostTexts js addr)

theorem find_replay (js : Journal) (addr : Addr) :
    (replay js).list.find? (fun node => node.addr == addr) =
      if addr ∈ Ledger.mentions (hostLog js) then some (rawNode js addr).parseRSstatus
      else none := by
  rw [replay_list, List.find?_map]
  have same : (fun node : NodeInfo => node.addr == addr) ∘
      (fun a => (rawNode js a).parseRSstatus) = fun a => a == addr := by
    funext a
    simp [rawNode]
  rw [same]
  by_cases h : addr ∈ Ledger.mentions (hostLog js)
  · rw [if_pos h]
    cases hit : (Ledger.mentions (hostLog js)).find? (fun a => a == addr) with
    | none => exact absurd (List.find?_eq_none.mp hit addr h) (by simp)
    | some a =>
      have ha := List.find?_some hit
      rw [Option.map_some, beq_iff_eq.mp ha]
  · rw [if_neg h]
    have miss : (Ledger.mentions (hostLog js)).find? (fun a => a == addr) = none :=
      List.find?_eq_none.mpr (fun a ha e => h (beq_iff_eq.mp e ▸ ha))
    rw [miss, Option.map_none]

theorem latest_eq (js : Journal) (addr : Addr) :
    latest js addr = blockMetaStatusEnumParse (statusWord (lastText js addr)) := by
  rw [latest, blockGetAddrStatusFromInfo, find_replay]
  by_cases h : addr ∈ Ledger.mentions (hostLog js)
  · simp only [if_pos h]
    rw [parseRSstatus_status]
    rfl
  · simp only [if_neg h]
    have empty : lastText js addr = "" := by
      rw [lastText, hostTexts, Ledger.records_eq_nil h]
      rfl
    rw [empty]
    decide

/-- What a line does to the shown status of a host, when it does anything: the
text of a resize status may be too long for the field. -/
def effect (addr : Addr) : MetaLine → Option (Option MetaStatus)
  | .host a s n => if a = addr ∧ (statusText s n).length ≤ 31 then some (some s) else none
  | .entryDelete _ => if addr = "ENTRYDELETE" then some none else none
  | _ => none

theorem statusWord_text (status : MetaStatus) (size : Option Nat) :
    statusWord (statusText status size) = metaStatusLookup status := by
  have plain : ∀ c ∈ (metaStatusLookup status).toList, (c != '-') = true := fun c hc =>
    bne_iff_ne.mpr (fun e => lookup_no_dash status (e ▸ hc))
  cases size with
  | none =>
    rw [statusWord, statusText, List.takeWhile_eq_self_iff.mpr plain, String.ofList_toList]
  | some n =>
    have dash : (statusText status (some n)).toList =
        (metaStatusLookup status).toList ++ '-' :: (toString n).toList := by
      simp [statusText]
    rw [statusWord, dash, List.takeWhile_append_of_pos plain]
    simp

theorem hostTexts_append (js ms : Journal) (addr : Addr) :
    hostTexts (js ++ ms) addr = hostTexts js addr ++ hostTexts ms addr := by
  rw [hostTexts, hostLog, List.filterMap_append, Ledger.records_append]
  rfl

theorem latest_snoc (js : Journal) (l : MetaLine) (addr : Addr) :
    latest (js ++ [l]) addr = (effect addr l).getD (latest js addr) := by
  have same : hostTexts [l] addr = [] → effect addr l = none →
      latest (js ++ [l]) addr = (effect addr l).getD (latest js addr) := by
    intro none keep
    rw [keep, latest_eq, lastText, hostTexts_append, none, List.append_nil, latest_eq]
    rfl
  have put : ∀ text, hostTexts [l] addr = [text] →
      lastText (js ++ [l]) addr = copy 32 (lastText js addr) text := by
    intro text ht
    rw [lastText, hostTexts_append, ht, keptText, List.foldl_append]
    rfl
  cases l with
  | host a s n =>
    by_cases ha : a = addr
    · subst a
      have text : hostTexts [.host addr s n] addr = [statusText s n] := by
        simp [hostTexts, hostLog, hostRecord, Ledger.records_single]
      rw [latest_eq, put _ text]
      by_cases fits : (statusText s n).length ≤ 31
      · rw [CText.copy_fits fits, statusWord_text, statusParse_lookup]
        simp [effect, fits]
      · rw [CText.copy_long (Nat.lt_of_not_le fits), ← latest_eq]
        simp [effect, fits]
    · exact same (by simp [hostTexts, hostLog, hostRecord, Ledger.records_single, ha])
        (by simp [effect, ha])
  | entryDelete e =>
    by_cases ha : addr = "ENTRYDELETE"
    · subst addr
      have text : hostTexts [.entryDelete e] "ENTRYDELETE" = [e.text] := by
        simp [hostTexts, hostLog, hostRecord, Ledger.records_single]
      have fits : e.text.length ≤ 31 := by cases e <;> decide
      have unknown : blockMetaStatusEnumParse (statusWord e.text) = none := by
        cases e <;> decide
      rw [latest_eq, put _ text, CText.copy_fits fits, unknown]
      rfl
    · have hne : ¬ "ENTRYDELETE" = addr := fun h => ha h.symm
      exact same (by simp [hostTexts, hostLog, hostRecord, Ledger.records_single, hne])
        (by simp [effect, ha])
  | _ => exact same rfl rfl

/-- The status shown after more lines is that of the last line that had an effect. -/
theorem latest_append (js ms : Journal) (addr : Addr) :
    latest (js ++ ms) addr = (ms.filterMap (effect addr)).getLast?.getD (latest js addr) := by
  induction ms using List.reverseRecOn with
  | nil => simp
  | append_singleton ms l ih =>
    rw [← List.append_assoc, latest_snoc, ih, List.filterMap_append]
    cases h : effect addr l with
    | none => simp [h]
    | some s => simp [h]

theorem validHosts_nodup (js : Journal) : (validHosts js).Nodup := by
  have inj : (replay js).list.map NodeInfo.addr = Ledger.mentions (hostLog js) := by
    rw [replay_list, List.map_map]
    have id : NodeInfo.addr ∘ (fun addr => (rawNode js addr).parseRSstatus) = id := by
      funext a
      simp [rawNode]
    rw [id, List.map_id]
  have all : ((replay js).list.map NodeInfo.addr).Nodup := inj ▸ Ledger.mentions_nodup _
  exact all.sublist (List.filter_sublist.map _)

theorem mem_validHosts {js : Journal} {addr : Addr} :
    addr ∈ validHosts js ↔ isValidAt js addr = true := by
  have word : ∀ a, (rawNode js a).parseRSstatus.status = statusWord (lastText js a) :=
    fun a => parseRSstatus_status _
  rw [validHosts, List.mem_map, isValidAt, latest_eq]
  constructor
  · rintro ⟨node, hnode, rfl⟩
    obtain ⟨hmem, hvalid⟩ := List.mem_filter.mp hnode
    rw [replay_list] at hmem
    obtain ⟨a, _, rfl⟩ := List.mem_map.mp hmem
    rw [blockhostIsValid, word] at hvalid
    simpa [rawNode] using hvalid
  · intro hvalid
    have mentioned : addr ∈ Ledger.mentions (hostLog js) := by
      by_contra h
      have empty : lastText js addr = "" := by
        rw [lastText, hostTexts, Ledger.records_eq_nil h]
        rfl
      rw [empty] at hvalid
      exact absurd hvalid (by decide)
    refine ⟨(rawNode js addr).parseRSstatus, List.mem_filter.mpr ⟨?_, ?_⟩, by simp [rawNode]⟩
    · rw [replay_list]
      exact List.mem_map_of_mem mentioned
    · rw [blockhostIsValid, word]
      exact hvalid

end Latest

end GlusterBlock
