import GlusterBlock.DynConfig

/-! The configuration file by its lines: blank ones, comments and `KEY=VALUE`. What the
daemon keeps of them in its buffer is their text, as long as each of them has room. -/
namespace GlusterBlock.DynConfig

structure IsKey (key : List Char) : Prop where
  nonempty : key ≠ []
  first : ∀ c ∈ key.head?, isBlank c = false ∧ c ≠ '#'
  last : ∀ c ∈ key.getLast?, isBlank c = false
  plain : ∀ c ∈ key, c ≠ '=' ∧ isEol c = false ∧ c ≠ '\x00'

/-- A line that gives a key its value, which is any text, with blanks around the key. -/
structure Assignment where
  indent : List Char
  key : List Char
  gap : List Char
  value : List Char
  crlf : Bool
  indented : indent.all isBlank
  spaced : gap.all isBlank
  named : IsKey key
  inLine : '\n' ∉ value ∧ '\x00' ∉ value

def Assignment.body (a : Assignment) : List Char := a.indent ++ (a.key ++ (a.gap ++ '=' :: a.value))

def Assignment.text (a : Assignment) : List Char := a.body ++ if a.crlf then ['\r'] else []

inductive ConfLine where
  | skipped (text : List Char) (blank : gluserBlockIsBlankOrCommentLine text) (inLine : '\n' ∉ text)
  | assign (a : Assignment)

def ConfLine.text : ConfLine → List Char
  | .skipped text _ _ => text
  | .assign a => a.text

def ConfLine.assignment : ConfLine → Option Assignment
  | .skipped _ _ _ => none
  | .assign a => some a

/-- One version of the file. Its last line may lack the newline. -/
structure ConfVersion where
  lines : List ConfLine
  tail : Option ConfLine

def ConfVersion.tailText (v : ConfVersion) : List Char := (v.tail.map ConfLine.text).getD []

def ConfVersion.file (v : ConfVersion) : List Char :=
  (v.lines.map (fun l => l.text ++ ['\n'])).flatten ++ v.tailText

/-- The assignments that end in a newline. -/
def ConfVersion.finished (v : ConfVersion) : List Assignment := v.lines.filterMap ConfLine.assignment

def ConfVersion.unfinished (v : ConfVersion) : Option Assignment := v.tail.bind ConfLine.assignment

def ConfVersion.assignments (v : ConfVersion) : List Assignment := v.finished ++ v.unfinished.toList

/-- What the daemon keeps of the file. -/
def ConfVersion.kept (v : ConfVersion) : List (List Char) :=
  v.finished.map (fun a => a.text ++ ['\n']) ++ v.unfinished.toList.map Assignment.text

/-- Each line fits when the buffer grows by one step for it, and the last null fits too. -/
def Fits (len : Nat) : List (List Char) → Prop
  | [] => len % gbBufLen ≠ gbBufLen - 1
  | line :: lines => len % gbBufLen + line.length < 2 * gbBufLen ∧ Fits (len + line.length) lines

instance Fits.decide : ∀ len lines, Decidable (Fits len lines)
  | _, [] => inferInstanceAs (Decidable (_ ≠ _))
  | len, line :: lines =>
    have := Fits.decide (len + line.length) lines
    inferInstanceAs (Decidable (_ ∧ _))

section Text

variable {a : Assignment}

theorem blank_plain {c : Char} (blank : isBlank c) :
    c ≠ '=' ∧ isEol c = false ∧ c ≠ '\x00' ∧ c ≠ '\n' := by
  rcases Bool.or_eq_true_iff.mp blank with h | h
  · have same : c = ' ' := beq_iff_eq.mp h
    subst same
    decide
  · have same : c = '\t' := beq_iff_eq.mp h
    subst same
    decide

theorem not_eol {c : Char} (eol : isEol c = false) : c ≠ '\n' ∧ c ≠ '\r' := by
  simpa [isEol] using eol

/-- Neither the blanks nor the key of a line have one of the characters that take it apart. -/
theorem front_plain (a : Assignment) {c : Char} (mem : c ∈ a.indent ∨ c ∈ a.key ∨ c ∈ a.gap) :
    c ≠ '=' ∧ isEol c = false ∧ c ≠ '\x00' ∧ c ≠ '\n' := by
  rcases mem with mem | mem | mem
  · exact blank_plain (List.all_eq_true.mp a.indented c mem)
  · obtain ⟨equals, eol, null⟩ := a.named.plain c mem
    exact ⟨equals, eol, null, (not_eol eol).1⟩
  · exact blank_plain (List.all_eq_true.mp a.spaced c mem)

theorem mem_body {c : Char} :
    c ∈ a.body ↔ (c ∈ a.indent ∨ c ∈ a.key ∨ c ∈ a.gap) ∨ c = '=' ∨ c ∈ a.value := by
  simp only [Assignment.body, List.mem_append, List.mem_cons, or_assoc]

theorem text_plain (a : Assignment) : '\n' ∉ a.text ∧ '\x00' ∉ a.text := by
  have body : '\n' ∉ a.body ∧ '\x00' ∉ a.body := by
    simp only [mem_body]
    constructor
    · rintro (front | mem | mem)
      · exact (front_plain a front).2.2.2 rfl
      · exact absurd mem (by decide)
      · exact a.inLine.1 mem
    · rintro (front | mem | mem)
      · exact (front_plain a front).2.2.1 rfl
      · exact absurd mem (by decide)
      · exact a.inLine.2 mem
  unfold Assignment.text
  split <;> simp [body]

theorem text_nonempty (a : Assignment) : a.text ≠ [] := by
  simp [Assignment.text, Assignment.body]

/-- The key stands in front. -/
theorem dropWhile_indent (a : Assignment) (p : Char → Bool) (rest : List Char)
    (blanks : ∀ c, isBlank c → p c) (stops : ∀ c ∈ a.key.head?, p c = false) :
    (a.indent ++ (a.key ++ rest)).dropWhile p = a.key ++ rest := by
  rw [List.dropWhile_append_of_pos (fun c mem => blanks c (List.all_eq_true.mp a.indented c mem))]
  cases key : a.key with
  | nil => exact absurd key a.named.nonempty
  | cons c key =>
    rw [key] at stops
    simp [stops c rfl]

theorem assignment_kept (a : Assignment) (rest : List Char) :
    gluserBlockIsBlankOrCommentLine (a.body ++ rest) = false := by
  have start : (a.body ++ rest).dropWhile (fun c => isBlank c || isEol c || c == '\x00')
      = a.key ++ (a.gap ++ '=' :: (a.value ++ rest)) := by
    rw [Assignment.body]
    simp only [List.append_assoc, List.cons_append]
    refine dropWhile_indent a _ _ (fun c blank => by simp [blank]) (fun c mem => ?_)
    have plain := a.named.plain c (List.mem_of_mem_head? mem)
    simp [(a.named.first c mem).1, plain.2.1, plain.2.2]
  unfold gluserBlockIsBlankOrCommentLine
  rw [start]
  cases key : a.key with
  | nil => exact absurd key a.named.nonempty
  | cons c key' =>
    have first := (a.named.first c (by rw [key]; rfl)).2
    simpa using first

end Text

section Read

variable {v : ConfVersion}

/-- A line ends at its newline. -/
theorem getlines_line {line rest : List Char} (inLine : '\n' ∉ line) :
    getlines (line ++ '\n' :: rest) = (line ++ ['\n']) :: getlines rest := by
  induction line with
  | nil => simp [getlines]
  | cons c line ih =>
    rw [List.mem_cons, not_or] at inLine
    rw [List.cons_append, getlines, if_neg (Ne.symm inLine.1), ih inLine.2]
    rfl

theorem getlines_last {line : List Char} (inLine : '\n' ∉ line) (some : line ≠ []) :
    getlines line = [line] := by
  induction line with
  | nil => exact absurd rfl some
  | cons c line ih =>
    rw [List.mem_cons, not_or] at inLine
    rw [getlines, if_neg (Ne.symm inLine.1)]
    cases line with
    | nil => rfl
    | cons d line => rw [ih inLine.2 (List.cons_ne_nil d line)]

theorem getlines_flatten (text : List Char) : (getlines text).flatten = text := by
  induction text with
  | nil => rfl
  | cons c text ih =>
    rw [getlines]
    split
    · rename_i newline
      rw [List.flatten_cons, ih, newline]
      rfl
    · cases lines : getlines text with
      | nil =>
        rw [lines] at ih
        rw [← ih]
        rfl
      | cons line rest =>
        rw [lines] at ih
        rw [← ih]
        rfl

/-- A line is not empty, and a newline can only be at its end. -/
theorem getlines_mem {text line : List Char} (mem : line ∈ getlines text) :
    line ≠ [] ∧ '\n' ∉ line.dropLast := by
  induction text generalizing line with
  | nil => cases mem
  | cons c text ih =>
    rw [getlines] at mem
    split at mem
    · rcases List.mem_cons.mp mem with rfl | mem
      · decide
      · exact ih mem
    · rename_i inLine
      cases lines : getlines text with
      | nil =>
        rw [lines] at mem
        rw [List.mem_singleton.mp mem]
        exact ⟨List.cons_ne_nil c [], List.not_mem_nil⟩
      | cons first rest =>
        rw [lines] at mem ih
        rcases List.mem_cons.mp mem with rfl | mem
        · obtain ⟨some, inner⟩ := ih List.mem_cons_self
          refine ⟨List.cons_ne_nil c first, ?_⟩
          rw [List.dropLast_cons_of_ne_nil some, List.mem_cons, not_or]
          exact ⟨Ne.symm inLine, inner⟩
        · exact ih (List.mem_cons_of_mem first mem)

theorem getlines_one {line : List Char} (some : line ≠ []) (inner : '\n' ∉ line.dropLast) :
    getlines line = [line] := by
  rcases List.eq_nil_or_concat line with rfl | ⟨front, c, rfl⟩
  · exact absurd rfl some
  · rw [List.concat_eq_append, List.dropLast_concat] at inner
    rw [List.concat_eq_append]
    by_cases newline : c = '\n'
    · rw [newline, getlines_line inner]
      rfl
    · apply getlines_last _ (by simp)
      intro mem
      rcases List.mem_append.mp mem with before | last
      · exact inner before
      · exact newline (List.mem_singleton.mp last).symm

/-- Behind a newline a new line begins. -/
theorem getlines_append (front rest : List Char) :
    getlines (front ++ '\n' :: rest) = getlines (front ++ ['\n']) ++ getlines rest := by
  induction front with
  | nil => simp [getlines]
  | cons c front ih =>
    rw [List.cons_append, List.cons_append, getlines, getlines, ih]
    split
    · rfl
    · cases lines : getlines (front ++ ['\n']) with
      | nil =>
        have whole := getlines_flatten (front ++ ['\n'])
        rw [lines] at whole
        simp at whole
      | cons line more => rfl

/-- All lines but the last one end in a newline. -/
theorem getlines_newline (file : List Char) :
    ∀ line ∈ (getlines file).dropLast, line.getLast? = some '\n' := by
  induction file with
  | nil =>
    intro line mem
    cases mem
  | cons c file ih =>
    rw [getlines]
    split
    · cases lines : getlines file with
      | nil =>
        intro line mem
        cases mem
      | cons l ls =>
        rw [lines] at ih
        rw [List.dropLast_cons_cons, List.forall_mem_cons]
        exact ⟨rfl, ih⟩
    · cases lines : getlines file with
      | nil =>
        intro line mem
        cases mem
      | cons l ls =>
        dsimp only
        rw [lines] at ih
        cases ls with
        | nil =>
          intro line mem
          cases mem
        | cons l' ls =>
          rw [List.dropLast_cons_cons, List.forall_mem_cons] at ih ⊢
          refine ⟨?_, ih.2⟩
          rw [List.getLast?_cons, ih.1]
          rfl

theorem getlines_lines {ls : List ConfLine} {rest : List Char} :
    getlines ((ls.map (fun l => l.text ++ ['\n'])).flatten ++ rest)
      = ls.map (fun l => l.text ++ ['\n']) ++ getlines rest := by
  induction ls with
  | nil => rfl
  | cons l ls ih =>
    have inLine : '\n' ∉ l.text := by
      cases l with
      | skipped text blank inLine => exact inLine
      | assign a => exact (text_plain a).1
    simp only [List.map_cons, List.flatten_cons, List.append_assoc, List.cons_append]
    rw [getlines_line inLine, List.nil_append, ih]

theorem blank_newline {text : List Char} (blank : gluserBlockIsBlankOrCommentLine text) :
    gluserBlockIsBlankOrCommentLine (text ++ ['\n']) := by
  unfold gluserBlockIsBlankOrCommentLine at blank ⊢
  rw [List.dropWhile_append]
  cases left : text.dropWhile (fun c => isBlank c || isEol c || c == '\x00') with
  | nil => rfl
  | cons c rest =>
    rw [left] at blank
    exact blank

/-- The lines that are no blanks and no comments are the assignments. -/
theorem kept_lines (v : ConfVersion) :
    (getlines v.file).filter (fun line => !gluserBlockIsBlankOrCommentLine line) = v.kept := by
  have front : ∀ ls : List ConfLine,
      (ls.map (fun l => l.text ++ ['\n'])).filter (fun line => !gluserBlockIsBlankOrCommentLine line)
        = (ls.filterMap ConfLine.assignment).map (fun a => a.text ++ ['\n']) := by
    intro ls
    induction ls with
    | nil => rfl
    | cons l ls ih =>
      rw [List.map_cons, List.filter_cons, ih]
      cases l with
      | skipped text blank inLine =>
        rw [if_neg (by simpa [ConfLine.text] using blank_newline blank)]
        rfl
      | assign a =>
        have kept := assignment_kept a ((if a.crlf then ['\r'] else []) ++ ['\n'])
        rw [← List.append_assoc, ← Assignment.text] at kept
        rw [if_pos (by simpa [ConfLine.text] using kept)]
        rfl
  have back : (getlines v.tailText).filter (fun line => !gluserBlockIsBlankOrCommentLine line)
      = v.unfinished.toList.map Assignment.text := by
    unfold ConfVersion.tailText ConfVersion.unfinished
    cases v.tail with
    | none => rfl
    | some l =>
      cases l with
      | skipped text blank inLine =>
        by_cases empty : text = []
        · subst empty
          rfl
        · change (getlines text).filter _ = []
          rw [getlines_last inLine empty]
          simp [blank]
      | assign a =>
        change (getlines a.text).filter _ = [a.text]
        rw [getlines_last (text_plain a).1 (text_nonempty a)]
        have kept : gluserBlockIsBlankOrCommentLine a.text = false := assignment_kept a _
        simp [kept]
  rw [ConfVersion.file, getlines_lines, List.filter_append, front, back]
  rfl

section Growth

variable {bufLen len : Nat}

/-- At the end the null goes into the buffer unless the text ends right before the next step. -/
theorem grown_end (grown : bufLen = gbBufLen * (len / gbBufLen + 1)) :
    len + 1 < bufLen ↔ len % gbBufLen ≠ gbBufLen - 1 := by
  unfold gbBufLen at grown ⊢
  omega

/-- A line fits when less than a step is missing; the buffer behind it is the step of its
end. -/
theorem grown_line (grown : bufLen = gbBufLen * (len / gbBufLen + 1)) (m : Nat) :
    let next := if len + m ≥ bufLen then bufLen + gbBufLen else bufLen
    (len + m < next ↔ len % gbBufLen + m < 2 * gbBufLen) ∧
      ∀ n, n = len + m → len + m < next → next = gbBufLen * (n / gbBufLen + 1) := by
  unfold gbBufLen at grown ⊢
  dsimp only
  by_cases late : len + m ≥ bufLen
  · rw [if_pos late]
    constructor
    · omega
    · intro n size
      omega
  · rw [if_neg late]
    constructor
    · omega
    · intro n size
      omega

end Growth

/-- The buffer is one step larger than the text needs at every line. -/
theorem readLines_kept {lines : List (List Char)} {buf : List Char} {bufLen : Nat}
    (grown : bufLen = gbBufLen * (buf.length / gbBufLen + 1))
    (fits : Fits buf.length (lines.filter (fun line => !gluserBlockIsBlankOrCommentLine line)))
    (text : ∀ line ∈ lines.filter (fun line => !gluserBlockIsBlankOrCommentLine line), '\x00' ∉ line) :
    readLines bufLen buf lines = some (buf ++
      (lines.filter (fun line => !gluserBlockIsBlankOrCommentLine line)).flatten ++ ['\x00']) := by
  induction lines generalizing buf bufLen with
  | nil =>
    have room : buf.length + 1 < bufLen := (grown_end grown).mpr fits
    simp [readLines, room]
  | cons line lines ih =>
    rw [readLines]
    cases blank : gluserBlockIsBlankOrCommentLine line with
    | true =>
      simp only [blank, Bool.not_true, Bool.false_eq_true, not_false_eq_true,
        List.filter_cons_of_neg] at fits text ⊢
      exact ih grown fits text
    | false =>
      simp only [blank, Bool.not_false, List.filter_cons_of_pos] at fits text ⊢
      rw [if_neg (by decide)]
      obtain ⟨room, fits⟩ := fits
      obtain ⟨enough, next⟩ := grown_line grown line.length
      have there := enough.mpr room
      have later := next _ List.length_append there
      rw [← List.length_append] at fits
      rw [if_pos ⟨there, text line List.mem_cons_self⟩, ih later fits]
      · simp
      · exact fun l mem => text l (List.mem_cons_of_mem line mem)

theorem readConfig_kept (fits : Fits 0 v.kept) :
    glusterBlockReadConfig v.file = some (v.kept.flatten ++ ['\x00']) := by
  have texts : ∀ line ∈ v.kept, '\x00' ∉ line := by
    intro line mem
    simp only [ConfVersion.kept, List.mem_append, List.mem_map] at mem
    rcases mem with ⟨a, -, rfl⟩ | ⟨a, -, rfl⟩
    · simp [(text_plain a).2]
    · exact (text_plain a).2
  rw [← kept_lines] at fits texts
  have read : readLines gbBufLen [] (getlines v.file) = _ := readLines_kept rfl fits texts
  rw [glusterBlockReadConfig, read, kept_lines, List.nil_append]

end Read

end GlusterBlock.DynConfig
