import GlusterBlock.Metafile

/-! The metafile as text. Lines are written by formatted updates and read back
through a window of 1024 characters that is moved to the end of each line.
The window keeps what an earlier, longer read left in it. -/
namespace GlusterBlock

open CText (copy token after scanZu)

namespace MetaLine

def key : MetaLine → String
  | .volume _ => metakeyLookup .volume
  | .gbid _ => metakeyLookup .gbid
  | .ha _ => metakeyLookup .ha
  | .entryCreate _ => metakeyLookup .entryCreate
  | .prioPath _ => metakeyLookup .prioPath
  | .size _ => metakeyLookup .size
  | .ringBuffer _ => metakeyLookup .ringBuffer
  | .blkSize _ => metakeyLookup .blkSize
  | .ioTimeout _ => metakeyLookup .ioTimeout
  | .passwd _ => metakeyLookup .passwd
  | .entryDelete _ => metakeyLookup .entryDelete
  | .host a _ _ => a

def value : MetaLine → String
  | .volume v => v
  | .gbid g => g
  | .ha n => toString n
  | .entryCreate e => e.text
  | .prioPath a => a
  | .size n => toString n
  | .ringBuffer n => toString n
  | .blkSize n => toString n
  | .ioTimeout n => toString n
  | .passwd p => p
  | .entryDelete e => e.text
  | .host _ s n => statusText s n

def text (l : MetaLine) : List Char := l.key.toList ++ ':' :: ' ' :: l.value.toList

end MetaLine

def render (js : Journal) : List Char := js.flatMap (fun l => l.text ++ ['\n'])

/-- One line into the info. `none` stands for the error return and for the
null pointer of a line without a blank. -/
def blockStuffMetaInfo (info : MetaInfo) (line : List Char) : Option MetaInfo := do
  let opt ← token ':' line
  let value ← after ' ' line
  let text := String.ofList value
  let number := scanZu (' ' :: value)
  match blockMetaKeyEnumParse (String.ofList opt) with
  | some .volume => some { info with volume := copy 255 info.volume text }
  | some .gbid => some { info with gbid := copy 38 info.gbid text }
  | some .size =>
    let size := number.getD info.size
    some { info with
      size := size, initialSize := if info.initialSize = 0 then size else info.initialSize }
  | some .ringBuffer => some { info with rbSize := number.getD info.rbSize }
  | some .ioTimeout => some { info with ioTimeout := number.getD info.ioTimeout }
  | some .blkSize => some { info with blkSize := number.getD info.blkSize }
  | some .ha => some { info with mpath := number.getD info.mpath }
  | some .entryCreate => some { info with entry := copy 16 info.entry text }
  | some .passwd => some { info with passwd := copy 38 info.passwd text }
  | some .prioPath => some { info with prioPath := copy 255 info.prioPath text }
  | some .entryDelete | none =>
    some { info with
      list := Ledger.upsert NodeInfo.addr (fun opt => { addr := copy 255 "" opt }) NodeInfo.put
        info.list (String.ofList opt) text }

/-- `strtok(line, "\n")`: the token, and the buffer with the end of the token
overwritten. -/
def strtokLine (line : List Char) : Option (List Char × List Char) :=
  match token '\n' (line.takeWhile (· != '\x00')) with
  | none => none
  | some tmp =>
    let start := (line.takeWhile (· == '\n')).length
    some (tmp, line.set (start + tmp.length) '\x00')

def windowBytes : Nat := 1024

/-- The read loop, `fuel` reads at most. -/
def readLines (file : List Char) : Nat → List Char → Nat → Nat → MetaInfo → Option MetaInfo
  | 0, _, _, _, _ => none
  | fuel + 1, line, offset, count, info =>
    let window := (file.drop offset).take windowBytes
    if window = [] then some info
    else
      match strtokLine (window ++ line.drop window.length) with
      | none => -- the loop's `continue` leaves the offset behind the window
        readLines file fuel (window ++ line.drop window.length) (offset + window.length) count info
      | some (tmp, line) =>
        match blockStuffMetaInfo info tmp with
        | none => none
        | some info =>
          let count := count + (tmp.length + 1)
          readLines file fuel line count count info

/-- `line` is what the stack buffer holds before the first read. -/
def blockGetMetaInfo (line file : List Char) : Option MetaInfo :=
  (readLines file (file.length + 1) line 0 0 {}).map blockParseRSstatus

section Writable

def nameChar (c : Char) : Bool := c.isAlphanum || c == '_' || c == '-'

def glusterBlockIsNameAcceptable (name : String) : Bool :=
  name.length < 255 && name.toList.all nameChar

/-- What the command line accepts is a dotted quad; only its characters and its
longest text matter here. -/
def addrAcceptable (addr : String) : Bool :=
  addr != "" && addr.length ≤ 15 && addr.toList.all (fun c => c.isDigit || c == '.')

def uuidText (uuid : String) : Bool :=
  uuid.length ≤ 36 && uuid.toList.all (fun c => c.isAlphanum || c == '-')

/-- The lines that updates write: 32-bit and 64-bit numbers, accepted names and
addresses, printed uuids. The HA count is printed signed. -/
def MetaLine.writable : MetaLine → Bool
  | .volume v => glusterBlockIsNameAcceptable v
  | .gbid g => uuidText g
  | .ha n => n < 2 ^ 31
  | .entryCreate _ => true
  | .prioPath a => addrAcceptable a
  | .size n => n < 2 ^ 64
  | .ringBuffer n => n < 2 ^ 32
  | .blkSize n => n < 2 ^ 32
  | .ioTimeout n => n < 2 ^ 32
  | .passwd p => uuidText p
  | .entryDelete _ => true
  | .host a _ n => addrAcceptable a && n.all (· < 2 ^ 64)

/-- No character the reader treats specially. -/
def plain (s : String) : Bool := s.toList.all (fun c => c != '\n' && c != '\x00' && c != ':' && c != ' ')

theorem plain_append {s t : String} (hs : plain s = true) (ht : plain t = true) :
    plain (s ++ t) = true := by
  simp only [plain, String.toList_append, List.all_append, Bool.and_eq_true]
  exact ⟨hs, ht⟩

theorem plain_of {s : String} {p : Char → Bool} (all : s.toList.all p = true)
    (nl : p '\n' = false) (nul : p '\x00' = false) (colon : p ':' = false)
    (blank : p ' ' = false) : plain s = true := by
  refine List.all_eq_true.mpr (fun c hc => ?_)
  have hp := List.all_eq_true.mp all c hc
  have ne : ∀ d, p d = false → (c != d) = true := by
    intro d hd
    refine bne_iff_ne.mpr ?_
    rintro rfl
    exact absurd hp (by simp [hd])
  simp only [ne _ nl, ne _ nul, ne _ colon, ne _ blank, Bool.and_self]

theorem plain_number (n : Nat) : plain (toString n) = true := by
  have digits : (toString n).toList.all Char.isDigit = true := by
    refine List.all_eq_true.mpr (fun c hc => ?_)
    rw [Nat.toString_eq_repr, Nat.toList_repr] at hc
    exact CText.digits_isDigit hc
  exact plain_of digits (by decide) (by decide) (by decide) (by decide)

theorem plain_name {name : String} (h : glusterBlockIsNameAcceptable name = true) :
    plain name = true :=
  plain_of (Bool.and_eq_true _ _ ▸ h).2 (by decide) (by decide) (by decide) (by decide)

theorem plain_addr {addr : String} (h : addrAcceptable addr = true) : plain addr = true :=
  plain_of (Bool.and_eq_true _ _ ▸ h).2 (by decide) (by decide) (by decide) (by decide)

theorem plain_uuid {uuid : String} (h : uuidText uuid = true) : plain uuid = true :=
  plain_of (Bool.and_eq_true _ _ ▸ h).2 (by decide) (by decide) (by decide) (by decide)

theorem plain_status (status : MetaStatus) (size : Option Nat) :
    plain (statusText status size) = true := by
  have word : plain (metaStatusLookup status) = true := by cases status <;> decide
  cases size with
  | none => exact word
  | some n => exact plain_append (plain_append word (by decide)) (plain_number n)

theorem plain_metakey (k : Metakey) : plain (metakeyLookup k) = true := by
  cases k <;> decide

theorem plain_key {l : MetaLine} (h : l.writable = true) : plain l.key = true := by
  cases l with
  | host a s n => exact plain_addr (Bool.and_eq_true _ _ ▸ h).1
  | _ => exact plain_metakey _

theorem plain_value {l : MetaLine} (h : l.writable = true) : plain l.value = true := by
  cases l with
  | volume v => exact plain_name h
  | gbid g => exact plain_uuid h
  | prioPath a => exact plain_addr h
  | passwd p => exact plain_uuid h
  | entryCreate e => cases e <;> decide
  | entryDelete e => cases e <;> decide
  | host a s n => exact plain_status s n
  | ha n => exact plain_number n
  | size n => exact plain_number n
  | ringBuffer n => exact plain_number n
  | blkSize n => exact plain_number n
  | ioTimeout n => exact plain_number n

theorem number_length {n : Nat} (h : n < 2 ^ 64) : (toString n).length ≤ 20 := by
  rw [Nat.toString_eq_repr, Nat.length_repr_le_iff (by decide)]
  omega

theorem status_length {status : MetaStatus} {size : Option Nat}
    (h : size.all (· < 2 ^ 64) = true) : (statusText status size).length ≤ 41 := by
  have word := lookup_short status
  cases size with
  | none => exact Nat.le_trans word (by decide)
  | some n =>
    have digits := number_length (n := n) (by simpa using h)
    have parts : (statusText status (some n)).length =
        (metaStatusLookup status).length + 1 + (toString n).length := by
      have dash : "-".length = 1 := by decide
      simp only [statusText, String.length_append, dash]
    omega

theorem key_length {l : MetaLine} (h : l.writable = true) : l.key.length ≤ 15 := by
  have keys : ∀ k, (metakeyLookup k).length ≤ 15 := by intro k; cases k <;> decide
  cases l with
  | host a s n =>
    simp only [MetaLine.writable, addrAcceptable, Bool.and_eq_true, decide_eq_true_eq] at h
    exact h.1.1.2
  | _ => exact keys _

theorem value_length {l : MetaLine} (h : l.writable = true) : l.value.length ≤ 254 := by
  have small : ∀ {n b : Nat}, b ≤ 2 ^ 64 → n < b → (toString n).length ≤ 254 :=
    fun hb hn => Nat.le_trans (number_length (Nat.lt_of_lt_of_le hn hb)) (by decide)
  cases l with
  | volume v =>
    simp only [MetaLine.writable, glusterBlockIsNameAcceptable, Bool.and_eq_true,
      decide_eq_true_eq] at h
    exact Nat.le_of_lt_succ h.1
  | gbid g | passwd g =>
    simp only [MetaLine.writable, uuidText, Bool.and_eq_true, decide_eq_true_eq] at h
    exact Nat.le_trans h.1 (by decide)
  | prioPath a =>
    simp only [MetaLine.writable, addrAcceptable, Bool.and_eq_true, decide_eq_true_eq] at h
    exact Nat.le_trans h.1.2 (by decide)
  | entryCreate e | entryDelete e => cases e <;> decide
  | host a s n => exact Nat.le_trans (status_length (Bool.and_eq_true _ _ ▸ h).2) (by decide)
  | ha n | size n | ringBuffer n | blkSize n | ioTimeout n =>
    exact small (by decide) (of_decide_eq_true h)

end Writable

section Line

theorem plain_ne {s : String} (h : plain s = true) {c : Char} (hc : c ∈ s.toList) :
    c ≠ '\n' ∧ c ≠ '\x00' ∧ c ≠ ':' ∧ c ≠ ' ' := by
  have all := List.all_eq_true.mp h c hc
  simpa [and_assoc] using all

theorem key_nonempty {l : MetaLine} (h : l.writable = true) : l.key.toList ≠ [] := by
  have keys : ∀ k, (metakeyLookup k).toList ≠ [] := by intro k; cases k <;> decide
  cases l with
  | host a s n =>
    simp only [MetaLine.writable, addrAcceptable, Bool.and_eq_true, bne_iff_ne] at h
    intro he
    exact h.1.1.1 (String.toList_eq_nil_iff.mp he)
  | _ => exact keys _

theorem text_length {l : MetaLine} (h : l.writable = true) : l.text.length < windowBytes := by
  have parts : l.text.length = l.key.length + 2 + l.value.length := by
    simp only [MetaLine.text, List.length_append, List.length_cons, String.length_toList]
    omega
  have hk := key_length h
  have hv := value_length h
  rw [parts, windowBytes]
  omega

theorem text_no_end {l : MetaLine} (h : l.writable = true) :
    ∀ c ∈ l.text, c ≠ '\n' ∧ c ≠ '\x00' := by
  intro c hc
  rw [MetaLine.text, List.mem_append, List.mem_cons, List.mem_cons] at hc
  rcases hc with hc | rfl | rfl | hc
  · have hp := plain_ne (plain_key h) hc
    exact ⟨hp.1, hp.2.1⟩
  · decide
  · decide
  · have hp := plain_ne (plain_value h) hc
    exact ⟨hp.1, hp.2.1⟩

/-- The first token of a window that starts with a whole line is that line,
whatever follows. -/
theorem strtokLine_text {l : MetaLine} (h : l.writable = true) (rest : List Char) :
    ∃ line, strtokLine (l.text ++ '\n' :: rest) = some (l.text, line) := by
  have ends := text_no_end h
  have string : (l.text ++ '\n' :: rest).takeWhile (· != '\x00') =
      l.text ++ '\n' :: rest.takeWhile (· != '\x00') := by
    rw [List.takeWhile_append_of_pos (fun c hc => bne_iff_ne.mpr (ends c hc).2)]
    simp
  have nonempty : l.text ≠ [] := by simp [MetaLine.text]
  have tok : token '\n' (l.text ++ '\n' :: rest.takeWhile (· != '\x00')) = some l.text :=
    CText.token_of nonempty (fun hc => (ends _ hc).1 rfl)
  simp only [strtokLine, string, tok, Option.some.injEq, Prod.mk.injEq, true_and, exists_eq']

theorem addr_not_key {addr : Addr} (h : addrAcceptable addr = true) :
    blockMetaKeyEnumParse addr = none := by
  simp only [addrAcceptable, Bool.and_eq_true] at h
  have letters : ∀ k, ¬ (metakeyLookup k).toList.all (fun c => c.isDigit || c == '.') = true := by
    intro k
    cases k <;> decide
  cases hk : blockMetaKeyEnumParse addr with
  | none => rfl
  | some k => exact absurd (keyParse_some hk ▸ h.2) (letters k)

/-- The switch sees the key, and the blank is followed by the value. -/
theorem stuff_tokens {l : MetaLine} (h : l.writable = true) :
    token ':' l.text = some l.key.toList ∧ after ' ' l.text = some l.value.toList := by
  have hk := fun c (hc : c ∈ l.key.toList) => plain_ne (plain_key h) hc
  constructor
  · exact CText.token_of (key_nonempty h) (fun hc => (hk _ hc).2.2.1 rfl)
  · have blank : ' ' ∉ l.key.toList ++ [':'] := by
      intro hc
      rcases List.mem_append.mp hc with hc | hc
      · exact (hk _ hc).2.2.2 rfl
      · exact absurd hc (by decide)
    have shape : l.text = (l.key.toList ++ [':']) ++ ' ' :: l.value.toList := by
      simp [MetaLine.text]
    rw [shape]
    exact CText.after_of blank

theorem scan_number {n : Nat} (h : n < 2 ^ 64) :
    scanZu (' ' :: Nat.toDigits 10 n) = some n := by
  rw [CText.scanZu_space]
  exact CText.scanZu_digits (by rw [CText.maxSize]; omega)

theorem putHost_copied {a : Addr} (fits : a.length ≤ 255 - 1) (vs : List NodeInfo)
    (text : String) :
    Ledger.upsert NodeInfo.addr (fun opt => { addr := copy 255 "" opt }) NodeInfo.put vs a text =
      putHost vs a text :=
  Ledger.upsert_fresh (by rw [CText.copy_fits fits]) vs text

theorem stuff_text {l : MetaLine} (h : l.writable = true) (info : MetaInfo) :
    blockStuffMetaInfo info l.text = some (stuff info l) := by
  obtain ⟨hopt, hvalue⟩ := stuff_tokens h
  have long := value_length h
  simp only [blockStuffMetaInfo, hopt, hvalue, Option.bind_eq_bind, Option.bind_some,
    String.ofList_toList]
  cases l with
  | volume v =>
    have fits : v.length ≤ 255 - 1 := long
    simp [MetaLine.key, MetaLine.value, stuff, CText.copy_fits fits]
  | gbid g =>
    simp only [MetaLine.writable, uuidText, Bool.and_eq_true, decide_eq_true_eq] at h
    have fits : g.length ≤ 38 - 1 := Nat.le_succ_of_le h.1
    simp [MetaLine.key, MetaLine.value, stuff, CText.copy_fits fits]
  | passwd p =>
    simp only [MetaLine.writable, uuidText, Bool.and_eq_true, decide_eq_true_eq] at h
    have fits : p.length ≤ 38 - 1 := Nat.le_succ_of_le h.1
    simp [MetaLine.key, MetaLine.value, stuff, CText.copy_fits fits]
  | prioPath a =>
    have fits : a.length ≤ 255 - 1 := long
    simp [MetaLine.key, MetaLine.value, stuff, CText.copy_fits fits]
  | entryCreate e =>
    have fits : e.text.length ≤ 16 - 1 := by cases e <;> decide
    simp [MetaLine.key, MetaLine.value, stuff, CText.copy_fits fits]
  | ha n =>
    have hn : n < 2 ^ 64 := Nat.lt_trans (of_decide_eq_true h) (by decide)
    simp [MetaLine.key, MetaLine.value, stuff, scan_number hn]
  | size n =>
    have hn : n < 2 ^ 64 := of_decide_eq_true h
    simp [MetaLine.key, MetaLine.value, stuff, scan_number hn]
  | ringBuffer n =>
    have hn : n < 2 ^ 64 := Nat.lt_trans (of_decide_eq_true h) (by decide)
    simp [MetaLine.key, MetaLine.value, stuff, scan_number hn]
  | blkSize n =>
    have hn : n < 2 ^ 64 := Nat.lt_trans (of_decide_eq_true h) (by decide)
    simp [MetaLine.key, MetaLine.value, stuff, scan_number hn]
  | ioTimeout n =>
    have hn : n < 2 ^ 64 := Nat.lt_trans (of_decide_eq_true h) (by decide)
    simp [MetaLine.key, MetaLine.value, stuff, scan_number hn]
  | entryDelete e =>
    have fits : (metakeyLookup .entryDelete).length ≤ 255 - 1 := by decide
    simp only [MetaLine.key, MetaLine.value, keyParse_lookup, putHost_copied fits]
    rfl
  | host a s n =>
    have ha : addrAcceptable a = true := (Bool.and_eq_true _ _ ▸ h).1
    have fits : a.length ≤ 255 - 1 := Nat.le_trans (key_length h) (by decide)
    simp only [MetaLine.key, MetaLine.value, addr_not_key ha, putHost_copied fits]
    rfl

end Line

section Read

theorem render_cons (l : MetaLine) (js : Journal) :
    render (l :: js) = l.text ++ '\n' :: render js := by
  simp [render]

theorem render_append (js ms : Journal) : render (js ++ ms) = render js ++ render ms := by
  simp [render]

/-- A read at the start of a line takes the whole line into the window. -/
theorem window_line {l : MetaLine} (h : l.writable = true) (done rest : List Char) :
    ∃ tail, ((done ++ (l.text ++ '\n' :: rest)).drop done.length).take windowBytes =
      l.text ++ '\n' :: tail := by
  have bound := text_length h
  rw [List.drop_left, List.take_append, List.take_of_length_le (Nat.le_of_lt bound)]
  obtain ⟨room, hroom⟩ : ∃ room, windowBytes - l.text.length = room + 1 :=
    ⟨windowBytes - l.text.length - 1, by omega⟩
  rw [hroom, List.take_succ_cons]
  exact ⟨_, rfl⟩

/-- Each round of the loop reads one line and stands at the start of the next;
the induction is on the lines still to be read. -/
theorem readLines_render (done rest : Journal) (writable : ∀ l ∈ rest, l.writable = true)
    (fuel : Nat) (enough : rest.length < fuel) (line : List Char) (info : MetaInfo) :
    readLines (render (done ++ rest)) fuel line (render done).length (render done).length info =
      some (rest.foldl stuff info) := by
  induction rest generalizing done fuel line info with
  | nil =>
    cases fuel with
    | zero => cases enough
    | succ fuel => simp [readLines]
  | cons l rest ih =>
    cases fuel with
    | zero => cases enough
    | succ fuel =>
      have hl := writable l List.mem_cons_self
      obtain ⟨tail, hwindow⟩ := window_line hl (render done) (render rest)
      rw [← render_cons, ← render_append] at hwindow
      obtain ⟨line', htok⟩ := strtokLine_text hl
        (tail ++ line.drop (l.text ++ '\n' :: tail).length)
      rw [← List.cons_append, ← List.append_assoc] at htok
      have some_read : l.text ++ '\n' :: tail ≠ [] := by simp
      have next : (render done).length + (l.text.length + 1) = (render (done ++ [l])).length := by
        simp [render]
      rw [readLines]
      simp only [hwindow, if_neg some_read, htok, stuff_text hl, next]
      have again := ih (done ++ [l]) (fun k hk => writable k (List.mem_cons_of_mem _ hk)) fuel
        (Nat.lt_of_succ_lt_succ enough) line' (stuff info l)
      rw [List.append_assoc, List.singleton_append] at again
      exact again

theorem lines_le_render (js : Journal) : js.length ≤ (render js).length := by
  induction js with
  | nil => exact Nat.le_refl 0
  | cons l js ih =>
    rw [render_cons, List.length_cons, List.length_append, List.length_cons]
    omega

/-- The windowed reader gives what replaying the lines gives, whatever the
buffer held before. -/
theorem blockGetMetaInfo_render (js : Journal) (writable : ∀ l ∈ js, l.writable = true)
    (line : List Char) : blockGetMetaInfo line (render js) = some (replay js) := by
  have enough : js.length < (render js).length + 1 :=
    Nat.lt_succ_of_le (lines_le_render js)
  have read := readLines_render [] js writable _ enough line {}
  have start : (render []).length = 0 := rfl
  rw [List.nil_append, start] at read
  rw [blockGetMetaInfo, read]
  rfl

end Read

end GlusterBlock
