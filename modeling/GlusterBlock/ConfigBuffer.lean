import GlusterBlock.ConfigFile
import GlusterBlock.Lib.Stores

/-! The buffer that the configuration file is read into, with its cells. It is made of zeros
and grows by one step for a line, and what is in the cells of a new step is not known. -/
namespace GlusterBlock.DynConfig

open Stores (Store Inside put view)

structure ConfBuf where
  bufLen : Nat
  len : Nat
  cells : Nat → Char
  stores : List Store

namespace ConfBuf

/-- The cells before anything is stored. The junk is what a new step has. -/
def blank (junk : Nat → Char) (i : Nat) : Char := if i < gbBufLen then '\x00' else junk i

def alloc (junk : Nat → Char) : ConfBuf := ⟨gbBufLen, 0, blank junk, []⟩

def store (b : ConfBuf) (start : Nat) (src : List Char) : ConfBuf :=
  { b with cells := put b.cells start src,
           stores := b.stores ++ Stores.run start src.length b.bufLen }

/-- `GB_STRCPY` to the end of the text. -/
def strcpy (b : ConfBuf) (src : List Char) (destbytes : Nat) : ConfBuf :=
  if (cstr src).length > destbytes - 1 then b else b.store b.len (cstr src ++ ['\x00'])

/-- The buffer for a line of this length. -/
def grow (b : ConfBuf) (m : Nat) : ConfBuf :=
  if b.len + m ≥ b.bufLen then { b with bufLen := b.bufLen + gbBufLen } else b

def keep (b : ConfBuf) (line : List Char) : ConfBuf :=
  let m := line.length
  let b := (b.grow m).strcpy line (m + 1)
  { b with len := b.len + m }

def readLine (b : ConfBuf) (line : List Char) : ConfBuf :=
  if gluserBlockIsBlankOrCommentLine line then b else b.keep line

/-- The null at the end goes behind the length that is counted up for it. -/
def terminate (b : ConfBuf) : ConfBuf :=
  let b := { b with len := b.len + 1 }
  b.store b.len ['\x00']

end ConfBuf

/-- The text that is returned, by its length, and the stores that were made for it. -/
structure ConfRead where
  text : List Char
  stores : List Store

/-- `glusterBlockReadConfig` with its buffer. A file without a line gives none, after it was
tried again. -/
def glusterBlockReadConfigBuf (junk : Nat → Char) (file : List Char) : Option ConfRead :=
  if getlines file = [] then none
  else
    let b := ((getlines file).foldl ConfBuf.readLine (ConfBuf.alloc junk)).terminate
    some ⟨view b.cells 0 b.len, b.stores⟩

/-- The lines that are neither blank nor comments. -/
def keptLines (file : List Char) : List (List Char) :=
  (getlines file).filter (fun line => !gluserBlockIsBlankOrCommentLine line)

/-- A line with a null has only nulls behind it, and the whole text is within the first
step. -/
def NullsLast (lines : List (List Char)) : Prop :=
  ∀ line ∈ lines, '\x00' ∈ line →
    (∀ c ∈ line.dropWhile (· != '\x00'), c = '\x00') ∧ lines.flatten.length < gbBufLen

section Fill

variable {junk : Nat → Char} {b : ConfBuf} {line text : List Char}

/-- The line as it is in a buffer of zeros. -/
def zeroed (line : List Char) : List Char :=
  cstr line ++ List.replicate (line.length - (cstr line).length) '\x00'

theorem zeroed_length (line : List Char) : (zeroed line).length = line.length := by
  have le : (cstr line).length ≤ line.length := cstr_le line
  unfold zeroed
  rw [List.length_append, List.length_replicate]
  omega

theorem zeroed_iff : zeroed line = line ↔ ∀ c ∈ line.dropWhile (· != '\x00'), c = '\x00' := by
  have parts : cstr line ++ line.dropWhile (· != '\x00') = line := List.takeWhile_append_dropWhile
  have size : (line.dropWhile (· != '\x00')).length = line.length - (cstr line).length := by
    have whole := congrArg List.length parts
    rw [List.length_append] at whole
    omega
  unfold zeroed
  constructor
  · intro same
    have nulls := List.append_cancel_left (same.trans parts.symm)
    rw [← nulls]
    exact fun c mem => List.eq_of_mem_replicate mem
  · intro nulls
    rw [← size, ← List.eq_replicate_of_mem nulls]
    exact parts

theorem zeroed_text (plain : '\x00' ∉ line) : zeroed line = line := by
  unfold zeroed
  rw [cstr_plain (fun c mem null => plain (null ▸ mem)), Nat.sub_self, List.replicate_zero, List.append_nil]

/-- What `keep` does: the copy is never refused. -/
theorem keep_cells (b : ConfBuf) (line : List Char) :
    (b.keep line).cells = put b.cells b.len (cstr line ++ ['\x00']) ∧
      (b.keep line).len = b.len + line.length ∧
      (b.keep line).bufLen = (b.grow line.length).bufLen ∧
      (b.keep line).stores =
        b.stores ++ Stores.run b.len ((cstr line).length + 1) (b.grow line.length).bufLen := by
  have fits : ¬ (cstr line).length > line.length + 1 - 1 := by
    have le : (cstr line).length ≤ line.length := cstr_le line
    omega
  unfold ConfBuf.keep ConfBuf.strcpy ConfBuf.store ConfBuf.grow
  dsimp only
  rw [if_neg fits, List.length_append, List.length_singleton]
  split <;> exact ⟨rfl, rfl, rfl, rfl⟩

/-- A line is stored up to its first null. -/
theorem keep_behind (line : List Char)
    (past : ∀ i, b.len < i → b.cells i = ConfBuf.blank junk i) :
    ∀ i, b.len + (cstr line).length < i → (b.keep line).cells i = ConfBuf.blank junk i := by
  intro i later
  rw [(keep_cells b line).1,
    Stores.put_behind (by rw [List.length_append, List.length_singleton]; omega)]
  exact past i (by omega)

/-- The text so far with a null behind it, and nothing stored further on. -/
structure Filled (junk : Nat → Char) (b : ConfBuf) (text : List Char) : Prop where
  len : b.len = text.length
  text : view b.cells 0 b.len = text
  null : b.cells b.len = '\x00'
  rest : ∀ i, b.len < i → b.cells i = ConfBuf.blank junk i

theorem filled_alloc (junk : Nat → Char) : Filled junk (ConfBuf.alloc junk) [] where
  len := rfl
  text := rfl
  null := rfl
  rest := fun _ _ => rfl

/-- A line goes into the text as it is in a buffer of zeros, when zeros are what is there
behind its first null. -/
theorem filled_keep (filled : Filled junk b text)
    (zeros : ∀ i, b.len + (cstr line).length < i → i ≤ b.len + line.length →
      ConfBuf.blank junk i = '\x00') : Filled junk (b.keep line) (text ++ zeroed line) := by
  have le : (cstr line).length ≤ line.length := cstr_le line
  obtain ⟨cells, len, -, -⟩ := keep_cells b line
  have behind := keep_behind line filled.rest
  have stored : view (b.keep line).cells b.len ((cstr line).length + 1) = cstr line ++ ['\x00'] := by
    have whole := Stores.view_put b.cells b.len (cstr line ++ ['\x00'])
    rwa [List.length_append, List.length_singleton, ← cells] at whole
  have left : view (b.keep line).cells (b.len + ((cstr line).length + 1))
      (line.length - (cstr line).length) =
        List.replicate (line.length - (cstr line).length) '\x00' := by
    apply Stores.view_const
    intro i lower upper
    rw [behind i (by omega), zeros i (by omega) (by omega)]
  have ends : view (b.keep line).cells b.len (line.length + 1) = zeroed line ++ ['\x00'] := by
    have size : line.length + 1 =
        (cstr line).length + 1 + (line.length - (cstr line).length) := by omega
    rw [size, Stores.view_append, stored, left]
    unfold zeroed
    rw [List.append_assoc, List.append_assoc, ← List.replicate_succ', List.replicate_succ,
      List.singleton_append]
  rw [Stores.view_append] at ends
  obtain ⟨here, null⟩ := List.append_inj' ends rfl
  refine ⟨?_, ?_, ?_, ?_⟩
  · rw [len, List.length_append, zeroed_length, filled.len]
  · rw [len, Stores.view_append, Nat.zero_add, here, cells]
    rw [Stores.view_same (fun i _ upper => Stores.put_before (by omega)), filled.text]
  · rw [len]
    exact (List.cons.inj null).1
  · intro i past
    rw [len] at past
    exact behind i (by omega)

/-- Stores are only added. -/
theorem stores_kept (lines : List (List Char)) (b : ConfBuf) :
    ∃ more, (lines.foldl ConfBuf.keep b).terminate.stores = b.stores ++ more := by
  induction lines generalizing b with
  | nil => exact ⟨_, rfl⟩
  | cons line lines ih =>
    obtain ⟨-, -, -, stores⟩ := keep_cells b line
    obtain ⟨more, rest⟩ := ih (b.keep line)
    exact ⟨_, by rw [List.foldl_cons, rest, stores, List.append_assoc]⟩

/-- A buffer that grows by one step for a line fits all lines exactly when they fit. Only the
last line may have a null in it. -/
theorem stores_inside {lines : List (List Char)}
    (grown : b.bufLen = gbBufLen * (b.len / gbBufLen + 1))
    (plain : ∀ line ∈ lines.dropLast, '\x00' ∉ line) :
    Inside (lines.foldl ConfBuf.keep b).terminate.stores ↔ Inside b.stores ∧ Fits b.len lines := by
  induction lines generalizing b with
  | nil =>
    change Inside (b.stores ++ Stores.run (b.len + 1) (0 + 1) b.bufLen) ↔ _
    rw [Stores.inside_append, Stores.inside_run, Nat.add_zero, grown_end grown]
    rfl
  | cons line lines ih =>
    obtain ⟨-, len, bufLen, stores⟩ := keep_cells b line
    have le : (cstr line).length ≤ line.length := cstr_le line
    obtain ⟨enough, next⟩ := grown_line grown line.length
    have step : (b.grow line.length).bufLen =
        if b.len + line.length ≥ b.bufLen then b.bufLen + gbBufLen else b.bufLen := by
      unfold ConfBuf.grow
      split <;> rfl
    have fits : Fits b.len (line :: lines) ↔
        b.len % gbBufLen + line.length < 2 * gbBufLen ∧ Fits (b.len + line.length) lines := Iff.rfl
    rw [← step] at enough next
    rw [List.foldl_cons, fits, ← enough]
    by_cases room : b.len + line.length < (b.grow line.length).bufLen
    · have grows : (b.keep line).bufLen = gbBufLen * ((b.keep line).len / gbBufLen + 1) := by
        rw [bufLen]
        exact next _ len room
      have there : b.len + (cstr line).length < (b.grow line.length).bufLen := by omega
      have later : ∀ l ∈ lines.dropLast, '\x00' ∉ l := by
        intro l mem
        cases lines with
        | nil => cases mem
        | cons l' lines => exact plain l (List.mem_cons_of_mem line mem)
      rw [ih grows later, stores, Stores.inside_append, Stores.inside_run, len,
        and_iff_left there, and_iff_right room]
    · apply iff_of_false
      · intro inside
        cases lines with
        | nil =>
          change Inside ((b.keep line).stores ++
            Stores.run ((b.keep line).len + 1) (0 + 1) (b.keep line).bufLen) at inside
          rw [Stores.inside_append, Stores.inside_run, len, bufLen] at inside
          omega
        | cons l lines =>
          have whole : cstr line = line :=
            cstr_plain (fun c mem null => plain line List.mem_cons_self (null ▸ mem))
          obtain ⟨more, rest⟩ := stores_kept (l :: lines) (b.keep line)
          rw [rest, stores, Stores.inside_append, Stores.inside_append, Stores.inside_run,
            whole] at inside
          exact room inside.1.2
      · exact fun both => room both.2.1

/-- The lines go into the text one after another, as long as those with a null have only nulls
behind it and are within the first step. -/
theorem filled_lines {lines : List (List Char)} (filled : Filled junk b text)
    (nulls : ∀ line ∈ lines, '\x00' ∈ line →
      zeroed line = line ∧ b.len + lines.flatten.length < gbBufLen) :
    Filled junk (lines.foldl ConfBuf.keep b) (text ++ lines.flatten) := by
  induction lines generalizing b text with
  | nil => rwa [List.flatten_nil, List.append_nil]
  | cons line lines ih =>
    have len := (keep_cells b line).2.1
    have same : zeroed line = line := by
      by_cases null : '\x00' ∈ line
      · exact (nulls line List.mem_cons_self null).1
      · exact zeroed_text null
    have zeros : ∀ i, b.len + (cstr line).length < i → i ≤ b.len + line.length →
        ConfBuf.blank junk i = '\x00' := by
      intro i lower upper
      by_cases null : '\x00' ∈ line
      · have room := (nulls line List.mem_cons_self null).2
        rw [List.flatten_cons, List.length_append] at room
        exact if_pos (by omega)
      · rw [cstr_plain (fun c mem eq => null (eq ▸ mem))] at lower
        omega
    have next := filled_keep filled zeros
    rw [same] at next
    rw [List.foldl_cons, List.flatten_cons, ← List.append_assoc]
    apply ih next
    intro l mem null
    obtain ⟨last, room⟩ := nulls l (List.mem_cons_of_mem line mem) null
    rw [List.flatten_cons, List.length_append] at room
    exact ⟨last, by omega⟩

/-- In a buffer of zeros each line is there up to its first null. -/
theorem zeroed_lines (lines : List (List Char)) (filled : Filled (fun _ => '\x00') b text) :
    Filled (fun _ => '\x00') (lines.foldl ConfBuf.keep b) (text ++ (lines.map zeroed).flatten) := by
  induction lines generalizing b text with
  | nil => rwa [List.map_nil, List.flatten_nil, List.append_nil]
  | cons line lines ih =>
    rw [List.foldl_cons, List.map_cons, List.flatten_cons, ← List.append_assoc]
    apply ih
    apply filled_keep filled
    intro i _ _
    exact ite_self _

/-- The text that is returned, by the text that the lines make. -/
theorem filled_terminate (filled : Filled junk b text) :
    view b.terminate.cells 0 b.terminate.len = text ++ ['\x00'] := by
  change view (put b.cells (b.len + 1) ['\x00']) 0 (b.len + 1) = _
  rw [Stores.view_same (fun i _ upper => Stores.put_before (by omega)), Stores.view_append,
    filled.text, Nat.zero_add]
  change text ++ [b.cells b.len] = _
  rw [filled.null]

theorem past_lines (lines : List (List Char))
    (past : ∀ i, b.len < i → b.cells i = ConfBuf.blank junk i) :
    (lines.foldl ConfBuf.keep b).len = b.len + lines.flatten.length ∧
      ∀ i, (lines.foldl ConfBuf.keep b).len < i →
        (lines.foldl ConfBuf.keep b).cells i = ConfBuf.blank junk i := by
  induction lines generalizing b with
  | nil => exact ⟨rfl, past⟩
  | cons line lines ih =>
    have len := (keep_cells b line).2.1
    have le : (cstr line).length ≤ line.length := cstr_le line
    obtain ⟨whole, rest⟩ := ih (fun i later => keep_behind line past i (by omega))
    refine ⟨?_, rest⟩
    rw [List.foldl_cons, whole, len, List.flatten_cons, List.length_append, Nat.add_assoc]

end Fill

section Newlines

theorem filter_dropLast {α : Type*} (p : α → Bool) (xs : List α) :
    ∀ x ∈ (xs.filter p).dropLast, x ∈ xs.dropLast := by
  intro x mem
  rcases List.eq_nil_or_concat xs with rfl | ⟨front, last, rfl⟩
  · cases mem
  · rw [List.concat_eq_append] at mem ⊢
    rw [List.dropLast_concat]
    have inside : x ∈ front.filter p := by
      rw [List.filter_append, List.filter_singleton] at mem
      cases kept : p last with
      | true =>
        rw [kept, cond_true, List.dropLast_concat] at mem
        exact mem
      | false =>
        rw [kept, cond_false, List.append_nil] at mem
        exact List.dropLast_subset _ mem
    exact List.mem_of_mem_filter inside

/-- A line that ends in a newline has more than nulls behind a null. -/
theorem newline_plain {line : List Char} (ends : line.getLast? = some '\n')
    (nulls : ∀ c ∈ line.dropWhile (· != '\x00'), c = '\x00') : '\x00' ∉ line := by
  intro null
  have parts : cstr line ++ line.dropWhile (· != '\x00') = line := List.takeWhile_append_dropWhile
  cases back : line.dropWhile (· != '\x00') with
  | nil =>
    have all := List.dropWhile_eq_nil_iff.mp back
    exact absurd (all _ null) (by decide)
  | cons c rest =>
    rw [back] at parts nulls
    rw [← parts, List.getLast?_append] at ends
    have last := List.getLast?_eq_some_getLast (List.cons_ne_nil c rest)
    rw [last, Option.some_or] at ends
    have newline := Option.some.inj ends
    have inside := nulls _ (List.getLast_mem (List.cons_ne_nil c rest))
    rw [newline] at inside
    cases inside

/-- When only nulls are behind nulls, only the last line has any. -/
theorem front_plain_lines {file : List Char}
    (nulls : ∀ line ∈ keptLines file, '\x00' ∈ line →
      ∀ c ∈ line.dropWhile (· != '\x00'), c = '\x00') :
    ∀ line ∈ (keptLines file).dropLast, '\x00' ∉ line := by
  intro line mem null
  have ends := getlines_newline file line (filter_dropLast _ _ line mem)
  exact newline_plain ends (nulls line (List.dropLast_subset _ mem) null) null

end Newlines

/-- The text that is read, by the lines that are kept. -/
theorem readConfigBuf_kept (junk : Nat → Char) {file : List Char} (some : getlines file ≠ []) :
    glusterBlockReadConfigBuf junk file =
      let b := ((keptLines file).foldl ConfBuf.keep (ConfBuf.alloc junk)).terminate
      .some ⟨view b.cells 0 b.len, b.stores⟩ := by
  have kept : (getlines file).foldl ConfBuf.readLine (ConfBuf.alloc junk) =
      (keptLines file).foldl ConfBuf.keep (ConfBuf.alloc junk) := by
    unfold keptLines
    rw [List.foldl_filter]
    congr 1
    funext b line
    unfold ConfBuf.readLine
    cases gluserBlockIsBlankOrCommentLine line <;> rfl
  unfold glusterBlockReadConfigBuf
  rw [if_neg some, kept]

/-- A text that is read without its cells fits, and has no null in it. -/
theorem readLines_fits {lines : List (List Char)} {buf text : List Char} {bufLen : Nat}
    (grown : bufLen = gbBufLen * (buf.length / gbBufLen + 1))
    (read : readLines bufLen buf lines = some text) :
    Fits buf.length (lines.filter (fun line => !gluserBlockIsBlankOrCommentLine line)) ∧
      ∀ line ∈ lines.filter (fun line => !gluserBlockIsBlankOrCommentLine line), '\x00' ∉ line := by
  induction lines generalizing buf bufLen with
  | nil =>
    rw [readLines] at read
    split at read
    · rename_i room
      exact ⟨(grown_end grown).mp room, fun line mem => absurd mem List.not_mem_nil⟩
    · cases read
  | cons line lines ih =>
    rw [readLines] at read
    cases blank : gluserBlockIsBlankOrCommentLine line with
    | true =>
      rw [blank, if_pos rfl] at read
      rw [List.filter_cons_of_neg (by simp [blank])]
      exact ih grown read
    | false =>
      rw [blank, if_neg Bool.false_ne_true] at read
      dsimp only at read
      rw [List.filter_cons_of_pos (by simp [blank]), List.forall_mem_cons]
      obtain ⟨enough, next⟩ := grown_line grown line.length
      have there : buf.length + line.length <
          (if buf.length + line.length ≥ bufLen then bufLen + gbBufLen else bufLen) ∧
            '\x00' ∉ line := by
        by_contra short
        rw [if_neg short] at read
        cases read
      rw [if_pos there] at read
      obtain ⟨fits, plain⟩ := ih (next _ List.length_append there.1) read
      rw [List.length_append] at fits
      exact ⟨⟨enough.mp there.1, fits⟩, there.2, plain⟩

/-- What is read without its cells is the text in the buffer, whatever a new step has. -/
theorem readConfig_cells (junk : Nat → Char) {file text : List Char} (lines : getlines file ≠ [])
    (read : glusterBlockReadConfig file = some text) :
    ∃ stores, glusterBlockReadConfigBuf junk file = some ⟨text, stores⟩ ∧ Inside stores := by
  have grown : gbBufLen = gbBufLen * (0 / gbBufLen + 1) := by decide
  unfold glusterBlockReadConfig at read
  obtain ⟨fits, plain⟩ := readLines_fits grown read
  rw [readLines_kept grown fits plain] at read
  cases read
  have filled : Filled junk ((keptLines file).foldl ConfBuf.keep (ConfBuf.alloc junk))
      ([] ++ (keptLines file).flatten) :=
    filled_lines (filled_alloc junk) (fun line mem null => absurd null (plain line mem))
  have inside : Inside ((keptLines file).foldl ConfBuf.keep (ConfBuf.alloc junk)).terminate.stores ↔
      _ := stores_inside grown (fun line mem => plain line (List.dropLast_subset _ mem))
  refine ⟨_, readConfigBuf_kept junk lines |>.trans ?_, inside.mpr ⟨Stores.inside_nil, fits⟩⟩
  dsimp only
  rw [filled_terminate filled]
  rfl

/-- The text that a buffer of zeros gives tells that only nulls are behind a null. -/
theorem zeros_nulls {lines : List (List Char)}
    (same : (lines.map zeroed).flatten = lines.flatten) :
    ∀ line ∈ lines, ∀ c ∈ line.dropWhile (· != '\x00'), c = '\x00' := by
  have sizes : (lines.map zeroed).map List.length = lines.map List.length := by
    rw [List.map_map]
    exact List.map_congr_left (fun line _ => zeroed_length line)
  have each : lines.map zeroed = lines.map id := by
    rw [List.map_id]
    exact List.eq_iff_flatten_eq.mpr ⟨same, sizes⟩
  intro line mem
  exact zeroed_iff.mp (List.map_inj_left.mp each line mem)

/-- The null behind the text is the cell that the lines end in front of. -/
theorem terminate_null {b : ConfBuf} {text : List Char}
    (read : view b.terminate.cells 0 b.terminate.len = text ++ ['\x00']) :
    b.cells b.len = '\x00' := by
  change view (put b.cells (b.len + 1) ['\x00']) 0 (b.len + 1) = _ at read
  rw [Stores.view_append] at read
  obtain ⟨-, last⟩ := List.append_inj' read rfl
  have cell := (List.cons.inj last).1
  rwa [Nat.zero_add, Stores.put_before (Nat.lt_succ_self _)] at cell

/-- Behind a last line with a null the new steps begin too late for the text. -/
theorem null_room {lines : List (List Char)} {line : List Char} (null : '\x00' ∈ line)
    (ends : ((lines ++ [line]).foldl ConfBuf.keep (ConfBuf.alloc (fun _ => 'a'))).cells
      (lines ++ [line]).flatten.length = '\x00') :
    (lines ++ [line]).flatten.length < gbBufLen := by
  obtain ⟨len, past⟩ := past_lines lines (b := ConfBuf.alloc (fun _ => 'a')) (fun _ _ => rfl)
  have short : (cstr line).length < line.length := by
    have le : (cstr line).length ≤ line.length := cstr_le line
    have cut : (cstr line).length ≠ line.length := by
      intro full
      have whole : cstr line = line := (List.takeWhile_prefix _).eq_of_length full
      have away := List.takeWhile_eq_self_iff.mp whole _ null
      exact absurd away (by decide)
    omega
  have total : (lines ++ [line]).flatten.length = lines.flatten.length + line.length := by
    rw [List.flatten_append, List.length_append, List.flatten_singleton]
  have start : (lines.foldl ConfBuf.keep (ConfBuf.alloc (fun _ => 'a'))).len =
      lines.flatten.length := by
    rw [len]
    exact Nat.zero_add _
  rw [List.foldl_concat, total, keep_behind line past _ (by omega)] at ends
  rw [total]
  by_contra late
  have junk : ConfBuf.blank (fun _ => 'a') (lines.flatten.length + line.length) = 'a' := if_neg late
  rw [junk] at ends
  cases ends

/-- Whatever a new step has in it, all stores are inside the buffer and the text is that of the
lines with a null behind it, exactly when each line fits with one step more, the last null
fits, and a line with a null has only nulls behind it and is within the first step. -/
theorem config_buffer (file : List Char) :
    (∀ junk r, glusterBlockReadConfigBuf junk file = some r →
        Inside r.stores ∧ r.text = (keptLines file).flatten ++ ['\x00']) ↔
      Fits 0 (keptLines file) ∧ NullsLast (keptLines file) := by
  by_cases empty : getlines file = []
  · have none : keptLines file = [] := by
      unfold keptLines
      rw [empty]
      rfl
    rw [none]
    apply iff_of_true
    · intro junk r read
      unfold glusterBlockReadConfigBuf at read
      rw [if_pos empty] at read
      cases read
    · exact ⟨by decide, fun line mem => absurd mem List.not_mem_nil⟩
  have stores : (∀ line ∈ keptLines file, '\x00' ∈ line →
      ∀ c ∈ line.dropWhile (· != '\x00'), c = '\x00') → ∀ junk,
      (Inside ((keptLines file).foldl ConfBuf.keep (ConfBuf.alloc junk)).terminate.stores ↔
        Fits 0 (keptLines file)) := by
    intro nulls junk
    have grown : (ConfBuf.alloc junk).bufLen =
        gbBufLen * ((ConfBuf.alloc junk).len / gbBufLen + 1) := by
      change gbBufLen = gbBufLen * (0 / gbBufLen + 1)
      decide
    rw [stores_inside grown (front_plain_lines nulls)]
    exact and_iff_right Stores.inside_nil
  constructor
  · intro all
    have read := fun junk => all junk _ (readConfigBuf_kept junk empty)
    have zero := (read (fun _ => '\x00')).2
    dsimp only at zero
    rw [filled_terminate (zeroed_lines _ (filled_alloc _)), List.nil_append] at zero
    have nulls := zeros_nulls (List.append_cancel_right zero)
    have plain := front_plain_lines (fun line mem _ => nulls line mem)
    refine ⟨(stores (fun line mem _ => nulls line mem) _).mp (read (fun _ => 'a')).1, ?_⟩
    intro line mem null
    refine ⟨nulls line mem, ?_⟩
    have cell := terminate_null (read (fun _ => 'a')).2
    have len : ((keptLines file).foldl ConfBuf.keep (ConfBuf.alloc (fun _ => 'a'))).len =
        (keptLines file).flatten.length :=
      (past_lines _ (fun _ _ => rfl)).1.trans (Nat.zero_add _)
    rw [len] at cell
    rcases List.eq_nil_or_concat (keptLines file) with none | ⟨front, last, split⟩
    · rw [none] at mem
      cases mem
    · rw [List.concat_eq_append] at split
      rw [split] at mem plain cell ⊢
      rw [List.dropLast_concat] at plain
      rcases List.mem_append.mp mem with before | here
      · exact absurd null (plain line before)
      · rw [List.mem_singleton.mp here] at null
        exact null_room null cell
  · rintro ⟨fits, last⟩ junk r read
    rw [readConfigBuf_kept junk empty] at read
    cases read
    refine ⟨(stores (fun line mem null => (last line mem null).1) junk).mpr fits, ?_⟩
    have within : ∀ line ∈ keptLines file, '\x00' ∈ line → zeroed line = line ∧
        0 + (keptLines file).flatten.length < gbBufLen := by
      intro line mem null
      rw [Nat.zero_add]
      exact ⟨zeroed_iff.mpr (last line mem null).1, (last line mem null).2⟩
    exact filled_terminate (filled_lines (filled_alloc junk) within)

/-- The null of a text of 1023 characters is behind the buffer. -/
theorem terminator_outside : ¬ ∀ junk r,
    glusterBlockReadConfigBuf junk (List.replicate 1023 'a') = some r →
      Inside r.stores ∧ r.text = (keptLines (List.replicate 1023 'a')).flatten ++ ['\x00'] := by
  have lines : getlines (List.replicate 1023 'a') = [List.replicate 1023 'a'] := by
    apply getlines_last
    · intro mem
      exact absurd (List.eq_of_mem_replicate mem) (by decide)
    · exact List.replicate_succ_ne_nil
  have kept : keptLines (List.replicate 1023 'a') = [List.replicate 1023 'a'] := by
    unfold keptLines
    rw [lines]
    rfl
  intro all
  have inside := (all (fun _ => 'a') _ (readConfigBuf_kept _ (by rw [lines]; exact List.cons_ne_nil _ _))).1
  dsimp only at inside
  rw [kept, stores_inside (by decide) (fun line mem => absurd mem List.not_mem_nil)] at inside
  have fits : Fits 0 [List.replicate 1023 'a'] := inside.2
  have last : (0 + (List.replicate 1023 'a').length) % gbBufLen ≠ gbBufLen - 1 := fits.2
  rw [List.length_replicate] at last
  exact last (by decide)

end GlusterBlock.DynConfig
