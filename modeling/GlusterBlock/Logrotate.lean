import GlusterBlock.ConfigFile
import GlusterBlock.Lib.Stores
import Mathlib.Algebra.Order.BigOperators.Group.List
import Mathlib.Algebra.Order.Group.Nat

/-! The configuration of `logrotate`, rewritten for a log directory. The buffer has room for the
old text and one directory, while every header of the file is replaced. -/
namespace GlusterBlock

open DynConfig (getlines cstr isBlank isEol)
open Stores (Store Inside)

/-- A C string. -/
structure LogDir where
  text : List Char
  plain : '\x00' ∉ text

/-- A size as an `int` has it. -/
def intOf (n : Nat) : Int := (BitVec.ofNat 32 n).toInt

def intMax : Nat := 2 ^ 31 - 1

/-- The bytes that are allocated for an old text and a directory of these lengths. A negative
number asks for more than there is. -/
def logrotateAlloc (old dir : Nat) : Option Nat :=
  if intOf old = -1 then none
  else
    let len := (BitVec.ofInt 32 (intOf old + (dir + 1))).toInt
    if len < 0 then none else some len.toNat

/-- `strstr` and `strchr` look at the line up to its first null. -/
def isHeader (line : List Char) : Bool :=
  decide ("*.log".toList <:+: cstr line) && (cstr line).contains '\x7b'

def LogDir.header (d : LogDir) : List Char := d.text ++ "/*.log \x7b\n".toList

/-- What is printed for a line. -/
def logrotateLine (d : LogDir) (line : List Char) : List Char :=
  if isHeader line then d.header else cstr line

/-- What was printed for each line, if it came to the end, and the stores into the buffer. -/
structure LogrotateRun where
  printed : Option (List (List Char))
  stores : List Store

def LogrotateRun.text (run : LogrotateRun) : Option (List Char) := run.printed.map List.flatten

def logrotateLines (d : LogDir) (size : Nat) :
    List (List Char) → List (List Char) → List Store → LogrotateRun
  | [], printed, stores => ⟨some printed, stores ++ [(printed.flatten.length, size)]⟩
  | line :: lines, printed, stores =>
    let out := logrotateLine d line
    -- `sprintf` has no number for more
    if out.length > intMax then ⟨none, stores⟩
    else logrotateLines d size lines (printed ++ [out])
      (stores ++ Stores.run printed.flatten.length (out.length + 1) size)

/-- The length of a line is kept in an `int`, and minus one ends the loop. -/
def glusterLogrotateConfigSet (d : LogDir) (file : List Char) : LogrotateRun :=
  match logrotateAlloc file.length d.text.length with
  | none => ⟨none, []⟩
  | some size =>
    logrotateLines d size ((getlines file).takeWhile (fun line => intOf line.length != -1)) [] []

/-- The file behind a rewrite. It stays when no text was put together. -/
def rewritten (d : LogDir) (file : List Char) : List Char :=
  (glusterLogrotateConfigSet d file).text.getD file

/-- A line that `logrotate` does not read. -/
def isComment (line : List Char) : Bool := (line.dropWhile isBlank).head? == some '#'

/-- A header opens the section of a pattern: it is no comment and has `*.log {` at its end. -/
def opensLogs (line : List Char) : Bool :=
  !isComment line &&
    decide ("*.log \x7b".toList.reverse <+: line.reverse.dropWhile (fun c => isBlank c || isEol c))

/-- A header becomes that of the directory, every other line stays. -/
def renewed (d : LogDir) (line : List Char) : List Char := if opensLogs line then d.header else line

def renewedText (d : LogDir) (file : List Char) : List Char :=
  ((getlines file).map (renewed d)).flatten

/-- All stores are into the buffer, and each line is printed as what it becomes. -/
structure LogrotateRight (d : LogDir) (file : List Char) : Prop where
  fits : Inside (glusterLogrotateConfigSet d file).stores
  lines : (glusterLogrotateConfigSet d file).printed = some ((getlines file).map (renewed d))

/-- Both rewrites are right, also the second one behind the first one, which then does not
show. -/
structure LogrotateTwice (d₁ d₂ : LogDir) (file : List Char) : Prop where
  first : LogrotateRight d₁ file
  alone : LogrotateRight d₂ file
  second : LogrotateRight d₂ (rewritten d₁ file)
  same : rewritten d₂ (rewritten d₁ file) = rewritten d₂ file

/-- The buffer that is allocated for an old text and a directory has room for the new text. -/
def Room (old dir new : Nat) : Prop := ∃ size, logrotateAlloc old dir = some size ∧ new < size

/-- The length that a file has with the headers of a directory. -/
def renewedLength (d : LogDir) (file : List Char) : Nat :=
  ((getlines file).map (fun line => (renewed d line).length)).sum

/-- The buffers have room, a null is only in a line that the code takes for a header, such a
line is a header or that of both directories, no line has a length that is minus one as an
`int`, and with a header in the file the first directory makes a header of its own. -/
structure LogrotateFits (d₁ d₂ : LogDir) (file : List Char) : Prop where
  first : Room file.length d₁.text.length (renewedLength d₁ file)
  alone : Room file.length d₂.text.length (renewedLength d₂ file)
  second : Room (renewedLength d₁ file) d₂.text.length (renewedLength d₂ file)
  nulls : ∀ line ∈ getlines file, '\x00' ∈ line → isHeader line = true
  marks : ∀ line ∈ getlines file, isHeader line = true →
    opensLogs line = true ∨ line = d₁.header ∧ line = d₂.header
  lengths : ∀ line ∈ getlines file, intOf line.length ≠ -1
  newline : '\n' ∈ d₁.text → ∀ line ∈ getlines file, opensLogs line = false
  comment : isComment d₁.text = true → d₁.text = d₂.text ∨
    ∀ line ∈ getlines file, opensLogs line = false

section Lines

variable {d : LogDir} {size : Nat} {line : List Char} {lines printed : List (List Char)}
  {stores : List Store}

theorem header_marked {front : List Char} (plain : '\x00' ∉ front)
    (marked : isHeader line = true) : isHeader (front ++ line) = true := by
  unfold isHeader at marked ⊢
  have away : ∀ c ∈ front, (c != '\x00') = true :=
    fun c mem => bne_iff_ne.mpr (fun eq => plain (eq ▸ mem))
  have whole : cstr (front ++ line) = front ++ cstr line := List.takeWhile_append_of_pos away
  rw [Bool.and_eq_true, decide_eq_true_eq, List.contains_iff_mem] at marked ⊢
  rw [whole]
  exact ⟨marked.1.trans (List.suffix_append front _).isInfix, List.mem_append_right front marked.2⟩

theorem mark_marked : isHeader "/*.log \x7b\n".toList = true := by decide +kernel

theorem header_header (d : LogDir) : isHeader d.header = true :=
  header_marked d.plain mark_marked

/-- The code finds every header that has no null. -/
theorem opens_marked (plain : '\x00' ∉ line) (opens : opensLogs line = true) :
    isHeader line = true := by
  obtain ⟨_, ends⟩ := (Bool.and_eq_true _ _).mp opens
  have back : "*.log \x7b".toList.reverse <:+: line.reverse :=
    (of_decide_eq_true ends).isInfix.trans (List.dropWhile_suffix _).isInfix
  have among : "*.log \x7b".toList <:+: line := List.reverse_infix.mp back
  unfold isHeader
  rw [DynConfig.cstr_plain (fun c mem eq => plain (eq ▸ mem)), Bool.and_eq_true, decide_eq_true_eq,
    List.contains_iff_mem]
  exact ⟨.trans ⟨[], " \x7b".toList, rfl⟩ among, among.subset (by decide)⟩

/-- A line is printed as what it becomes exactly when it is taken for what it is. -/
theorem line_right : logrotateLine d line = renewed d line ↔
    ('\x00' ∈ line → isHeader line = true) ∧
      (isHeader line = true → opensLogs line = true ∨ line = d.header) := by
  unfold logrotateLine renewed
  by_cases marked : isHeader line = true
  · rw [if_pos marked]
    by_cases opens : opensLogs line = true
    · rw [if_pos opens]
      exact ⟨fun _ => ⟨fun _ => marked, fun _ => .inl opens⟩, fun _ => rfl⟩
    · rw [if_neg opens]
      refine ⟨fun same => ⟨fun _ => marked, fun _ => .inr same.symm⟩, fun right => ?_⟩
      exact ((right.2 marked).resolve_left opens).symm
  · rw [if_neg marked]
    refine ⟨fun same => ⟨fun null => ?_, fun header => absurd header marked⟩, fun right => ?_⟩
    · by_cases opens : opensLogs line = true
      · -- the string of the line is a header, and so is the line
        rw [if_pos opens] at same
        have twice : cstr (cstr line) = cstr line :=
          DynConfig.cstr_plain (fun c mem => bne_iff_ne.mp (List.mem_takeWhile_imp mem :))
        have header := header_header d
        rw [← same] at header
        unfold isHeader at header ⊢
        rwa [twice] at header
      · rw [if_neg opens] at same
        exact absurd (List.takeWhile_eq_self_iff.mp same _ null) (by decide)
    · have plain : '\x00' ∉ line := fun null => marked (right.1 null)
      have stays : ¬ opensLogs line = true := fun opens => marked (opens_marked plain opens)
      rw [if_neg stays]
      exact DynConfig.cstr_plain (fun c mem eq => plain (eq ▸ mem))

/-- Lines that can be printed go into the text one after another, and they are inside the
buffer with the null behind them exactly when all of them are shorter than it. -/
theorem lines_done (short : ∀ line ∈ lines, (logrotateLine d line).length ≤ intMax) :
    (logrotateLines d size lines printed stores).printed =
        some (printed ++ lines.map (logrotateLine d)) ∧
      (Inside (logrotateLines d size lines printed stores).stores ↔
        Inside stores ∧
          printed.flatten.length + (lines.map (logrotateLine d)).flatten.length < size) := by
  induction lines generalizing printed stores with
  | nil =>
    rw [List.map_nil, List.flatten_nil, List.append_nil, List.length_nil, Nat.add_zero,
      ← Stores.inside_single, ← Stores.inside_append]
    exact ⟨rfl, Iff.rfl⟩
  | cons line lines ih =>
    rw [List.forall_mem_cons] at short
    have step : logrotateLines d size (line :: lines) printed stores =
        logrotateLines d size lines (printed ++ [logrotateLine d line])
          (stores ++ Stores.run printed.flatten.length ((logrotateLine d line).length + 1) size) :=
      if_neg (Nat.not_lt_of_le short.1)
    obtain ⟨whole, inside⟩ := ih short.2
    rw [step, whole, inside, List.map_cons, List.flatten_cons, List.append_assoc,
      Stores.inside_append, Stores.inside_run, List.flatten_append, List.length_append,
      List.length_append, List.flatten_singleton]
    refine ⟨rfl, ⟨fun both => ⟨both.1.1, by omega⟩, fun both => ⟨⟨both.1, by omega⟩, by omega⟩⟩⟩

theorem lines_printed {whole : List (List Char)}
    (done : (logrotateLines d size lines printed stores).printed = some whole) :
    ∀ line ∈ lines, (logrotateLine d line).length ≤ intMax := by
  induction lines generalizing printed stores with
  | nil => exact fun line mem => absurd mem List.not_mem_nil
  | cons line lines ih =>
    rw [logrotateLines] at done
    split at done
    · cases done
    · rename_i short
      rw [List.forall_mem_cons]
      exact ⟨Nat.le_of_not_lt short, ih done⟩

end Lines

section Right

variable {d : LogDir} {file : List Char}

theorem header_nonempty (d : LogDir) : d.header ≠ [] := by
  intro empty
  exact absurd (List.append_eq_nil_iff.mp empty).2 (by decide)

theorem renewed_nonempty (d : LogDir) {line : List Char} (some : line ≠ []) : renewed d line ≠ [] := by
  unfold renewed
  split
  · exact header_nonempty d
  · exact some

theorem renewedText_length (d : LogDir) (file : List Char) :
    (renewedText d file).length = renewedLength d file := by
  unfold renewedText renewedLength
  rw [List.length_flatten, List.map_map]
  rfl

theorem alloc_le {old dir size : Nat} (alloc : logrotateAlloc old dir = some size) :
    size ≤ intMax := by
  unfold logrotateAlloc at alloc
  split at alloc
  · cases alloc
  · dsimp only at alloc
    have bound : (BitVec.ofInt 32 (intOf old + (dir + 1))).toInt < 2 ^ (32 - 1) := BitVec.toInt_lt
    split at alloc
    · cases alloc
    · cases alloc
      unfold intMax
      omega

/-- A rewrite is right exactly when its buffer has room and each line is taken and printed as
what it becomes. -/
theorem right_iff (d : LogDir) (file : List Char) : LogrotateRight d file ↔
    Room file.length d.text.length (renewedLength d file) ∧
      (∀ line ∈ getlines file, logrotateLine d line = renewed d line) ∧
      ∀ line ∈ getlines file, intOf line.length ≠ -1 := by
  constructor
  · rintro ⟨fits, right⟩
    unfold glusterLogrotateConfigSet at fits right
    cases alloc : logrotateAlloc file.length d.text.length with
    | none =>
      rw [alloc] at right
      cases right
    | some size =>
      rw [alloc] at fits right
      dsimp only at fits right
      obtain ⟨whole, inside⟩ : _ ∧ (Inside (logrotateLines d size _ [] []).stores ↔ _) :=
        lines_done (lines_printed right)
      rw [whole, Option.some.injEq, List.nil_append] at right
      have all : (getlines file).takeWhile (fun line => intOf line.length != -1) = getlines file :=
        (List.takeWhile_prefix _).eq_of_length (by simpa using congrArg List.length right)
      have last := (inside.mp fits).2
      rw [right, List.flatten_nil, List.length_nil, Nat.zero_add] at last
      rw [all] at right
      refine ⟨⟨size, alloc, ?_⟩, ?_, ?_⟩
      · exact renewedText_length d file ▸ last
      · exact List.map_inj_left.mp right
      · exact fun line mem => bne_iff_ne.mp (List.takeWhile_eq_self_iff.mp all line mem)
  · rintro ⟨⟨size, alloc, room⟩, each, lengths⟩
    have all : (getlines file).takeWhile (fun line => intOf line.length != -1) = getlines file :=
      List.takeWhile_eq_self_iff.mpr (fun line mem => bne_iff_ne.mpr (lengths line mem))
    have printed : (getlines file).map (logrotateLine d) = (getlines file).map (renewed d) :=
      List.map_congr_left each
    have run : glusterLogrotateConfigSet d file = logrotateLines d size (getlines file) [] [] := by
      unfold glusterLogrotateConfigSet
      rw [alloc]
      dsimp only
      rw [all]
    have short : ∀ line ∈ getlines file, (logrotateLine d line).length ≤ intMax := by
      intro line mem
      have part : (renewed d line).length ≤ renewedLength d file :=
        List.le_sum_of_mem (List.mem_map_of_mem mem)
      have le := alloc_le alloc
      rw [each line mem]
      omega
    obtain ⟨whole, inside⟩ : _ ∧ (Inside (logrotateLines d size _ [] []).stores ↔ _) :=
      lines_done short
    rw [printed] at whole inside
    refine ⟨?_, run ▸ whole⟩
    rw [run, inside, List.flatten_nil, List.length_nil, Nat.zero_add]
    exact ⟨Stores.inside_nil, (renewedText_length d file).symm ▸ room⟩

theorem rewritten_right (right : LogrotateRight d file) : rewritten d file = renewedText d file := by
  unfold rewritten LogrotateRun.text
  rw [right.lines]
  rfl

end Right

section Twice

variable {d₁ d₂ : LogDir} {file : List Char}

/-- Pieces of which all but the last one end in a newline have the lines of each of them. -/
theorem getlines_pieces {ps : List (List Char)}
    (ends : ∀ p ∈ ps.dropLast, p.getLast? = some '\n') :
    getlines ps.flatten = ps.flatMap getlines := by
  induction ps with
  | nil => rfl
  | cons p ps ih =>
    cases ps with
    | nil => simp
    | cons q ps =>
      rw [List.dropLast_cons_cons, List.forall_mem_cons] at ends
      obtain ⟨front, rfl⟩ := List.getLast?_eq_some_iff.mp ends.1
      rw [List.flatten_cons, List.flatMap_cons, ← ih ends.2, List.append_assoc,
        List.singleton_append, DynConfig.getlines_append]

theorem header_newline (d : LogDir) : d.header.getLast? = some '\n' := by
  unfold LogDir.header
  rw [List.getLast?_append]
  rfl

/-- The lines of the renewed text are those of its pieces. -/
theorem getlines_renewed (d : LogDir) (file : List Char) :
    getlines (renewedText d file) = (getlines file).flatMap (fun line => getlines (renewed d line)) := by
  unfold renewedText
  rw [getlines_pieces, List.flatMap_map]
  intro p mem
  rw [← List.map_dropLast] at mem
  obtain ⟨line, front, rfl⟩ := List.mem_map.mp mem
  unfold renewed
  split
  · exact header_newline d
  · exact DynConfig.getlines_newline file line front

theorem header_line {front : List Char} (plain : '\x00' ∉ front) :
    ∃ line ∈ getlines (front ++ "/*.log \x7b\n".toList), isHeader line = true := by
  induction front with
  | nil => exact ⟨"/*.log \x7b\n".toList, by decide +kernel, mark_marked⟩
  | cons c front ih =>
    rw [List.mem_cons, not_or] at plain
    obtain ⟨line, mem, marked⟩ := ih plain.2
    rw [List.cons_append, getlines]
    split
    · exact ⟨line, List.mem_cons_of_mem _ mem, marked⟩
    · cases lines : getlines (front ++ "/*.log \x7b\n".toList) with
      | nil =>
        rw [lines] at mem
        cases mem
      | cons first rest =>
        rw [lines] at mem
        dsimp only
        rcases List.mem_cons.mp mem with rfl | later
        · refine ⟨c :: line, List.mem_cons_self, ?_⟩
          have single : '\x00' ∉ [c] := fun null => plain.1 (List.mem_singleton.mp null)
          exact header_marked single marked
        · exact ⟨line, List.mem_cons_of_mem _ later, marked⟩

theorem renewed_one {line : List Char} (mem : line ∈ getlines file)
    (one : '\n' ∈ d₁.text → opensLogs line = false) :
    getlines (renewed d₁ line) = [renewed d₁ line] := by
  obtain ⟨some, inner⟩ := DynConfig.getlines_mem mem
  apply DynConfig.getlines_one (renewed_nonempty d₁ some)
  unfold renewed
  split
  · rename_i marked
    intro newline
    have front : d₁.header = (d₁.text ++ "/*.log \x7b".toList) ++ ['\n'] := by
      unfold LogDir.header
      rw [List.append_assoc]
      rfl
    rw [front, List.dropLast_concat] at newline
    rcases List.mem_append.mp newline with dir | mark
    · rw [one dir] at marked
      cases marked
    · exact absurd mark (by decide)
  · exact inner

theorem comment_header (d : LogDir) : isComment d.header = isComment d.text := by
  unfold isComment LogDir.header
  rw [List.dropWhile_append]
  split
  · rename_i blank
    rw [List.isEmpty_iff.mp blank]
    rfl
  · rename_i some
    rw [List.head?_append_of_ne_nil _ (by simpa using some)]

theorem opens_header (d : LogDir) : opensLogs d.header = !isComment d.text := by
  have ends : "*.log \x7b".toList.reverse <+:
      d.header.reverse.dropWhile (fun c => isBlank c || isEol c) := by
    unfold LogDir.header
    rw [List.reverse_append]
    exact ⟨'/' :: d.text.reverse, rfl⟩
  unfold opensLogs
  rw [comment_header, decide_eq_true ends, Bool.and_true]

/-- A line that was renewed for a directory is renewed for another one as it would have been
before. -/
theorem renewed_again (d₂ : LogDir) {line : List Char}
    (comment : isComment d₁.text = true → d₁.text = d₂.text ∨ opensLogs line = false) :
    renewed d₂ (renewed d₁ line) = renewed d₂ line := by
  by_cases opens : opensLogs line = true
  · have first : renewed d₁ line = d₁.header := if_pos opens
    have alone : renewed d₂ line = d₂.header := if_pos opens
    rw [first, alone]
    unfold renewed
    rw [opens_header]
    cases comments : isComment d₁.text with
    | false => rfl
    | true =>
      have same : d₁.text = d₂.text :=
        (comment comments).resolve_right (fun other => absurd (opens.symm.trans other) (by decide))
      exact congrArg (· ++ "/*.log \x7b\n".toList) same
  · have first : renewed d₁ line = line := if_neg opens
    rw [first]

/-- When each renewed line is one line, the first directory does not show behind the second. -/
theorem renewed_twice (d₂ : LogDir)
    (one : '\n' ∈ d₁.text → ∀ line ∈ getlines file, opensLogs line = false)
    (comment : isComment d₁.text = true → d₁.text = d₂.text ∨
      ∀ line ∈ getlines file, opensLogs line = false) :
    getlines (renewedText d₁ file) = (getlines file).map (renewed d₁) ∧
      renewedText d₂ (renewedText d₁ file) = renewedText d₂ file := by
  have lines : getlines (renewedText d₁ file) = (getlines file).map (renewed d₁) := by
    rw [getlines_renewed, List.map_eq_flatMap]
    apply List.flatMap_congr
    exact fun line mem => renewed_one mem (fun newline => one newline line mem)
  refine ⟨lines, ?_⟩
  unfold renewedText at lines ⊢
  rw [lines, List.map_map]
  apply congrArg List.flatten
  refine List.map_congr_left (fun line mem => renewed_again d₂ (fun comments => ?_))
  exact (comment comments).imp id (fun none => none line mem)

/-- A line that was renewed for a directory is printed for another one as what it becomes. -/
theorem renewed_line {line : List Char} (alone : logrotateLine d₂ line = renewed d₂ line)
    (comment : isComment d₁.text = true → d₁.text = d₂.text ∨ opensLogs line = false) :
    logrotateLine d₂ (renewed d₁ line) = renewed d₂ (renewed d₁ line) := by
  rw [renewed_again d₂ comment]
  by_cases opens : opensLogs line = true
  · have first : renewed d₁ line = d₁.header := if_pos opens
    have becomes : renewed d₂ line = d₂.header := if_pos opens
    rw [first, becomes]
    exact if_pos (header_header d₁)
  · have first : renewed d₁ line = line := if_neg opens
    rw [first]
    exact alone

theorem intOf_small {n : Nat} (small : n ≤ intMax) : intOf n ≠ -1 := by
  have bits : (BitVec.ofNat 32 n).toNat = n := by
    rw [BitVec.toNat_ofNat]
    exact Nat.mod_eq_of_lt (by unfold intMax at small; omega)
  unfold intOf
  rw [BitVec.toInt_eq_toNat_of_lt (by unfold intMax at small; omega), bits]
  omega

theorem renewed_lengths {old dir : Nat} (room : Room old dir (renewedLength d₁ file))
    {line : List Char} (mem : line ∈ getlines file) :
    intOf (renewed d₁ line).length ≠ -1 := by
  obtain ⟨size, alloc, fits⟩ := room
  have part : (renewed d₁ line).length ≤ renewedLength d₁ file :=
    List.le_sum_of_mem (List.mem_map_of_mem mem)
  have le : size ≤ intMax := alloc_le alloc
  exact intOf_small (by omega)

/-- A header that is more than one line leaves a line in front of the next header. -/
theorem header_longer {d₂ : LogDir} (newline : '\n' ∈ d₁.text)
    (printed : ∀ line ∈ getlines d₁.header, logrotateLine d₂ line = renewed d₂ line) :
    d₂.header.length < ((getlines d₁.header).map (fun line => (renewed d₂ line).length)).sum := by
  obtain ⟨front, back, split⟩ := List.append_of_mem newline
  have plain := d₁.plain
  rw [split, List.mem_append, List.mem_cons, not_or, not_or] at plain
  have lines : getlines d₁.header =
      getlines (front ++ ['\n']) ++ getlines (back ++ "/*.log \x7b\n".toList) := by
    unfold LogDir.header
    rw [split, List.append_assoc, List.cons_append, DynConfig.getlines_append]
  obtain ⟨line, mem, marked⟩ := header_line plain.2.2
  have last : (renewed d₂ line).length ≤
      ((getlines (back ++ "/*.log \x7b\n".toList)).map (fun line => (renewed d₂ line).length)).sum :=
    List.le_sum_of_mem (List.mem_map_of_mem mem)
  have header : renewed d₂ line = d₂.header :=
    (printed line (lines ▸ List.mem_append_right _ mem)).symm.trans (if_pos marked)
  have more : 0 < ((getlines (front ++ ['\n'])).map (fun line => (renewed d₂ line).length)).sum := by
    cases first : getlines (front ++ ['\n']) with
    | nil =>
      have whole := DynConfig.getlines_flatten (front ++ ['\n'])
      rw [first] at whole
      simp at whole
    | cons l ls =>
      have some : l ≠ [] := (DynConfig.getlines_mem (first ▸ List.mem_cons_self)).1
      rw [List.map_cons, List.sum_cons]
      exact Nat.add_pos_left (List.length_pos_iff.mpr (renewed_nonempty d₂ some)) _
  rw [lines, List.map_append, List.sum_append]
  rw [header] at last
  omega

/-- Then the text is longer than it is for the second directory alone. -/
theorem renewed_longer {d₂ : LogDir} (newline : '\n' ∈ d₁.text)
    (printed : ∀ line ∈ getlines (renewedText d₁ file), logrotateLine d₂ line = renewed d₂ line)
    (some : ∃ line ∈ getlines file, opensLogs line = true) :
    renewedLength d₂ file < renewedLength d₂ (renewedText d₁ file) := by
  have lines : renewedLength d₂ (renewedText d₁ file) = ((getlines file).map (fun line =>
      ((getlines (renewed d₁ line)).map (fun l => (renewed d₂ l).length)).sum)).sum := by
    unfold renewedLength
    rw [getlines_renewed, List.map_flatMap, List.flatMap_def, List.sum_flatten, List.map_map]
    rfl
  have header : ∀ line ∈ getlines file, opensLogs line = true → (renewed d₂ line).length <
      ((getlines (renewed d₁ line)).map (fun l => (renewed d₂ l).length)).sum := by
    intro line mem opens
    have first : renewed d₁ line = d₁.header := if_pos opens
    have second : renewed d₂ line = d₂.header := if_pos opens
    rw [first, second]
    refine header_longer newline (fun l among => printed l ?_)
    rw [getlines_renewed]
    exact List.mem_flatMap.mpr ⟨line, mem, first ▸ among⟩
  rw [lines]
  apply List.sum_lt_sum
  · intro line mem
    by_cases opens : opensLogs line = true
    · exact le_of_lt (header line mem opens)
    · have stays : renewed d₁ line = line := if_neg opens
      have one := renewed_one mem (fun _ => Bool.eq_false_iff.mpr opens : '\n' ∈ d₁.text → _)
      rw [one, stays, List.map_singleton, List.sum_singleton]
  · obtain ⟨line, mem, opens⟩ := some
    exact ⟨line, mem, header line mem opens⟩

end Twice

/-- For one directory after another one, all texts fit, only the headers are replaced, and the
first directory does not show in the end, exactly when each buffer has room for its text, the
code takes for headers what is one, and the first directory makes headers. -/
theorem logrotate_twice (d₁ d₂ : LogDir) (file : List Char) :
    LogrotateTwice d₁ d₂ file ↔ LogrotateFits d₁ d₂ file := by
  constructor
  · intro twice
    obtain ⟨room₁, each₁, lengths⟩ := (right_iff d₁ file).mp twice.first
    obtain ⟨room₂, each₂, _⟩ := (right_iff d₂ file).mp twice.alone
    obtain ⟨again, each, _⟩ := (right_iff d₂ _).mp twice.second
    have same := twice.same
    rw [rewritten_right twice.second, rewritten_right twice.alone, rewritten_right twice.first]
      at same
    rw [rewritten_right twice.first, renewedText_length, ← renewedText_length d₂, same,
      renewedText_length] at again
    rw [rewritten_right twice.first] at each
    have newline : '\n' ∈ d₁.text → ∀ line ∈ getlines file, opensLogs line = false := by
      intro newline
      by_contra some
      push Not at some
      obtain ⟨line, mem, opens⟩ := some
      have longer := renewed_longer newline each ⟨line, mem, (Bool.not_eq_false _).mp opens⟩
      rw [← renewedText_length, ← renewedText_length, same] at longer
      exact lt_irrefl _ longer
    refine ⟨room₁, room₂, again, fun line mem => (line_right.mp (each₁ line mem)).1, ?_, lengths,
      newline, ?_⟩
    · intro line mem marked
      by_cases opens : opensLogs line = true
      · exact .inl opens
      · exact .inr ⟨((line_right.mp (each₁ line mem)).2 marked).resolve_left opens,
          ((line_right.mp (each₂ line mem)).2 marked).resolve_left opens⟩
    · intro comments
      by_contra neither
      push Not at neither
      obtain ⟨differ, line, mem, opens⟩ := neither
      have opens := (Bool.not_eq_false _).mp opens
      -- the comment is a line of the file that the second rewrite replaces
      have header : renewed d₁ line = d₁.header := if_pos opens
      have one := renewed_one mem (fun has => newline has line mem)
      have there : d₁.header ∈ getlines (renewedText d₁ file) := by
        rw [getlines_renewed]
        exact List.mem_flatMap.mpr ⟨line, mem, by rw [one, header]; exact List.mem_singleton_self _⟩
      have printed := (line_right.mp (each _ there)).2 (header_header d₁)
      rw [opens_header, comments] at printed
      exact differ (List.append_cancel_right (printed.resolve_left (by decide)))
  · intro fits
    have each₁ : ∀ line ∈ getlines file, logrotateLine d₁ line = renewed d₁ line := fun line mem =>
      line_right.mpr
        ⟨fits.nulls line mem, fun marked => (fits.marks line mem marked).imp id And.left⟩
    have each₂ : ∀ line ∈ getlines file, logrotateLine d₂ line = renewed d₂ line := fun line mem =>
      line_right.mpr
        ⟨fits.nulls line mem, fun marked => (fits.marks line mem marked).imp id And.right⟩
    have first := (right_iff d₁ file).mpr ⟨fits.first, each₁, fits.lengths⟩
    have alone := (right_iff d₂ file).mpr ⟨fits.alone, each₂, fits.lengths⟩
    obtain ⟨lines, same⟩ := renewed_twice d₂ fits.newline fits.comment
    have second : LogrotateRight d₂ (rewritten d₁ file) := by
      rw [rewritten_right first, right_iff, lines, renewedText_length, ← renewedText_length d₂, same,
        renewedText_length]
      refine ⟨fits.second, ?_, ?_⟩
      · intro l mem
        obtain ⟨line, before, rfl⟩ := List.mem_map.mp mem
        refine renewed_line (each₂ line before) (fun comments => ?_)
        exact (fits.comment comments).imp id (fun none => none line before)
      · intro l mem
        obtain ⟨line, before, rfl⟩ := List.mem_map.mp mem
        exact renewed_lengths fits.first before
    refine ⟨first, alone, second, ?_⟩
    rw [rewritten_right second, rewritten_right alone, rewritten_right first, same]

/-- A comment that has the marks in it is overwritten. -/
example : ¬ LogrotateRight ⟨"/log/c".toList, by decide⟩
    "# these \x7b and \x7d files match *.log\n".toList :=
  fun right => absurd right.lines (by decide +kernel)

/-- Two headers become longer than the file and one directory. -/
theorem two_headers_overflow :
    ¬ LogrotateTwice ⟨"/log/c".toList, by decide⟩ ⟨"/log/c".toList, by decide⟩
      "/a/*.log \x7b\n/b/*.log \x7b\n".toList := by
  intro twice
  exact absurd twice.first.fits (by decide +kernel)

end GlusterBlock
