import GlusterBlock.BlockReplace
import GlusterBlock.MetaReader

/-! The second reader of the valid hosts, on the text of a metafile. It takes a host when it
meets a valid status of it and never gives it back, and it compares the whole text of a
status. -/
namespace GlusterBlock

/-- A host is taken once, at its first valid status. -/
def takeValid (list : List Addr) (host status : String) : List Addr :=
  if host ∈ list then list else if blockhostIsValid status then list ++ [host] else list

/-- What one line adds; `h` and `s` are the parts in front of the colon and behind it. -/
def parseValidLine (skiphost : Option Addr) (list : List Addr) (h s : List Char) : List Addr :=
  match blockMetaKeyEnumParse (String.ofList h) with
  | some .volume | some .gbid | some .size | some .ha | some .entryCreate | some .passwd => list
  | _ =>
    if skiphost = some (String.ofList h) then list
    else takeValid list (String.ofList h) (String.ofList (s.dropWhile (· == ' ')))

/-- The read loop, `fuel` reads at most. `none` stands for the null pointer of a window
without a line end or of a line without a colon. -/
def validLines (file : List Char) (skiphost : Option Addr) :
    Nat → List Char → Nat → List Addr → Option (List Addr)
  | 0, _, _, _ => none
  | fuel + 1, line, count, list =>
    let window := (file.drop count).take windowBytes
    if window = [] then some list
    else
      let line := window ++ line.drop window.length
      let string := line.takeWhile (· != '\x00')
      if '\n' ∈ string then
        let h := string.takeWhile (· != '\n')
        match CText.after ':' h with
        | none => none
        | some s =>
          let key := h.takeWhile (· != ':')
          validLines file skiphost fuel ((line.set h.length '\x00').set key.length '\x00')
            (count + (h.length + 1)) (parseValidLine skiphost list key s)
      else none

/-- `line` is what the stack buffer holds before the first read. -/
def Text.blockParseValidServers (line file : List Char) (list : List Addr) (skiphost : Option Addr) :
    Option (List Addr) :=
  validLines file skiphost (file.length + 1) line 0 list

section Lines

/-- What a line of a metafile adds. -/
def addValid (skiphost : Option Addr) (list : List Addr) : MetaLine → List Addr
  | .host a s n =>
    if some a = skiphost ∨ a ∈ list ∨ ¬ blockhostIsValid (statusText s n) then list
    else list ++ [a]
  | _ => list

theorem addValid_host (skiphost : Option Addr) (list : List Addr) (a : Addr) (s : MetaStatus)
    (n : Option Nat) :
    addValid skiphost list (.host a s n) =
      if some a = skiphost ∨ a ∈ list ∨ ¬ blockhostIsValid (statusText s n) then list
      else list ++ [a] := rfl

theorem parseValidServers_fold (js : Journal) (skiphost : Option Addr) :
    blockParseValidServers js skiphost = js.foldl (addValid skiphost) [] := rfl

theorem mem_addValid {js : Journal} {list : List Addr} {a : Addr} :
    a ∈ js.foldl (addValid none) list ↔
      a ∈ list ∨ ∃ s n, .host a s n ∈ js ∧ blockhostIsValid (statusText s n) = true := by
  induction js generalizing list with
  | nil => simp
  | cons l js ih =>
    have here : a ∈ addValid none list l ↔
        a ∈ list ∨ ∃ s n, l = .host a s n ∧ blockhostIsValid (statusText s n) = true := by
      cases l with
      | host b s n =>
        rw [addValid_host]
        by_cases known : b ∈ list
        · rw [if_pos (.inr (.inl known))]
          constructor
          · exact .inl
          · rintro (old | ⟨_, _, same, _⟩)
            · exact old
            · cases same
              exact known
        · cases valid : blockhostIsValid (statusText s n) with
          | false =>
            rw [if_pos (by simp)]
            constructor
            · exact .inl
            · rintro (old | ⟨_, _, same, shown⟩)
              · exact old
              · cases same
                exact absurd (valid.symm.trans shown) Bool.false_ne_true
          | true =>
            rw [if_neg (by simp [known])]
            constructor
            · intro mem
              rcases List.mem_append.mp mem with old | new
              · exact .inl old
              · cases List.mem_singleton.mp new
                exact .inr ⟨s, n, rfl, valid⟩
            · rintro (old | ⟨_, _, same, _⟩)
              · exact List.mem_append_left _ old
              · cases same
                simp
      | _ => simp [addValid]
    rw [List.foldl_cons, ih, here]
    constructor
    · rintro ((old | ⟨s, n, rfl, valid⟩) | ⟨s, n, mem, valid⟩)
      · exact .inl old
      · exact .inr ⟨s, n, List.mem_cons_self, valid⟩
      · exact .inr ⟨s, n, List.mem_cons_of_mem _ mem, valid⟩
    · rintro (old | ⟨s, n, mem, valid⟩)
      · exact .inl (.inl old)
      · rcases List.mem_cons.mp mem with same | later
        · exact .inl (.inr ⟨s, n, same.symm, valid⟩)
        · exact .inr ⟨s, n, later, valid⟩

theorem valid_status (s : MetaStatus) : blockhostIsValid (metaStatusLookup s) = s.isValid := by
  rw [blockhostIsValid, statusParse_lookup]
  rfl

/-- A text with a character that no status word has is no valid status. -/
theorem invalid_text {text : String} {c : Char} (mem : c ∈ text.toList)
    (foreign : ∀ s, c ∉ (metaStatusLookup s).toList) : blockhostIsValid text = false := by
  have unknown : blockMetaStatusEnumParse text = none := by
    refine List.find?_eq_none.mpr (fun s _ same => foreign s ?_)
    rwa [beq_iff_eq.mp same]
  rw [blockhostIsValid, unknown]
  rfl

theorem digit_foreign {c : Char} (digit : (c.isDigit || c == '.') = true) (s : MetaStatus) :
    c ∉ (metaStatusLookup s).toList := by
  have letters : (metaStatusLookup s).toList.all (fun c => !(c.isDigit || c == '.')) = true := by
    cases s <;> decide
  intro mem
  have other := List.all_eq_true.mp letters c mem
  rw [digit] at other
  cases other

theorem invalid_digits {text : String} (some_char : text ≠ "")
    (digits : text.toList.all (fun c => c.isDigit || c == '.') = true) :
    blockhostIsValid text = false := by
  have nonempty : text.toList ≠ [] := by simpa using some_char
  obtain ⟨c, rest, shape⟩ := List.exists_cons_of_ne_nil nonempty
  have mem : c ∈ text.toList := by rw [shape]; exact List.mem_cons_self
  exact invalid_text mem (digit_foreign (List.all_eq_true.mp digits c mem))

theorem invalid_number (n : Nat) : blockhostIsValid (toString n) = false := by
  refine invalid_digits ?_ (List.all_eq_true.mpr (fun c mem => ?_))
  · intro empty
    have chars := congrArg String.toList empty
    rw [Nat.toString_eq_repr, Nat.toList_repr] at chars
    exact Nat.toDigits_ne_nil chars
  · rw [Nat.toString_eq_repr, Nat.toList_repr] at mem
    simp [CText.digits_isDigit mem]

/-- The text of a status is a valid one when it has no size. -/
theorem valid_text (s : MetaStatus) (n : Option Nat) :
    blockhostIsValid (statusText s n) = (n.isNone && s.isValid) := by
  cases n with
  | none => exact valid_status s
  | some n => exact invalid_text (c := '-') (by simp [statusText]) lookup_no_dash

/-- The lines that are about no host give none, whether their key is known here or not. -/
theorem parseValidLine_text {l : MetaLine} (h : l.writable = true) (skiphost : Option Addr)
    (list : List Addr) :
    parseValidLine skiphost list l.key.toList (' ' :: l.value.toList) =
      addValid skiphost list l := by
  have trimmed : (' ' :: l.value.toList).dropWhile (· == ' ') = l.value.toList := by
    rw [List.dropWhile_cons_of_pos rfl]
    cases chars : l.value.toList with
    | nil => rfl
    | cons c rest =>
      have plain := plain_ne (plain_value h) (c := c) (by simp [chars])
      simp [plain.2.2.2]
  have kept : ∀ {k v : String}, blockhostIsValid v = false →
      (if skiphost = some k then list else takeValid list k v) = list := by
    intro k v invalid
    simp [takeValid, invalid]
  unfold parseValidLine
  rw [trimmed, String.ofList_toList, String.ofList_toList]
  cases l with
  | volume v | gbid v | passwd v => rfl
  | ha n | size n => rfl
  | entryCreate e => rfl
  | prioPath a =>
    have accepted := h
    simp only [MetaLine.writable, addrAcceptable, Bool.and_eq_true, bne_iff_ne] at accepted
    exact kept (invalid_digits accepted.1.1 accepted.2)
  | ringBuffer n | blkSize n | ioTimeout n => exact kept (invalid_number n)
  | entryDelete e => exact kept (by cases e <;> decide)
  | host a s n =>
    have unknown : blockMetaKeyEnumParse (MetaLine.host a s n).key = none :=
      addr_not_key (Bool.and_eq_true _ _ ▸ h).1
    rw [unknown]
    change (if skiphost = some a then list else takeValid list a (statusText s n)) = _
    rw [addValid_host, takeValid]
    by_cases skipped : skiphost = some a
    · rw [if_pos skipped, if_pos (.inl skipped.symm)]
    · rw [if_neg skipped]
      by_cases known : a ∈ list
      · rw [if_pos known, if_pos (.inr (.inl known))]
      · cases valid : blockhostIsValid (statusText s n) with
        | false => simp [known]
        | true => simp [known, eq_comm, skipped]

end Lines

section Read

theorem validLines_render (done rest : Journal) (writable : ∀ l ∈ rest, l.writable = true)
    (skiphost : Option Addr) (fuel : Nat) (enough : rest.length < fuel) (line : List Char)
    (list : List Addr) :
    validLines (render (done ++ rest)) skiphost fuel line (render done).length list =
      some (rest.foldl (addValid skiphost) list) := by
  induction rest generalizing done fuel line list with
  | nil =>
    cases fuel with
    | zero => cases enough
    | succ fuel => simp [validLines]
  | cons l rest ih =>
    cases fuel with
    | zero => cases enough
    | succ fuel =>
      have hl := writable l List.mem_cons_self
      have ends := text_no_end hl
      obtain ⟨tail, window⟩ := window_line hl (render done) (render rest)
      rw [← render_cons, ← render_append] at window
      have some_read : l.text ++ '\n' :: tail ≠ [] := by simp
      have string : ∀ more : List Char, (l.text ++ '\n' :: tail ++ more).takeWhile (· != '\x00') =
          l.text ++ '\n' :: (tail ++ more).takeWhile (· != '\x00') := by
        intro more
        rw [List.append_assoc,
          List.takeWhile_append_of_pos (fun c hc => bne_iff_ne.mpr (ends c hc).2)]
        simp
      have head : ∀ more : List Char, (l.text ++ '\n' :: more).takeWhile (· != '\n') = l.text := by
        intro more
        rw [List.takeWhile_append_of_pos (fun c hc => bne_iff_ne.mpr (ends c hc).1)]
        simp
      have keyChars := fun c (hc : c ∈ l.key.toList) => (plain_ne (plain_key hl) hc).2.2.1
      have value : CText.after ':' l.text = some (' ' :: l.value.toList) :=
        CText.after_of (fun hc => keyChars _ hc rfl)
      have key : l.text.takeWhile (· != ':') = l.key.toList := by
        rw [MetaLine.text,
          List.takeWhile_append_of_pos (fun c hc => bne_iff_ne.mpr (keyChars c hc))]
        simp
      have next : (render done).length + (l.text.length + 1) = (render (done ++ [l])).length := by
        simp [render]
      rw [validLines]
      simp only [window, if_neg some_read, string, head, value, key, next]
      rw [if_pos (by simp), parseValidLine_text hl]
      have again := fun line => ih (done ++ [l]) (fun k hk => writable k (List.mem_cons_of_mem _ hk))
        fuel (Nat.lt_of_succ_lt_succ enough) line (addValid skiphost list l)
      simp only [List.append_assoc, List.singleton_append] at again
      exact again _

/-- On the lines of a metafile the reader is that of the coordinator, whatever the buffer
held before. -/
theorem blockParseValidServers_render {js : Journal} (writable : ∀ l ∈ js, l.writable = true)
    (line : List Char) (skiphost : Option Addr) :
    Text.blockParseValidServers line (render js) [] skiphost =
      some (blockParseValidServers js skiphost) := by
  have enough : js.length < (render js).length + 1 := Nat.lt_succ_of_le (lines_le_render js)
  exact validLines_render [] js writable skiphost _ enough line []

/-- The hosts that this reader finds are those with a valid status at any time. -/
theorem mem_parseValidServers {js : Journal} {a : Addr} :
    a ∈ blockParseValidServers js none ↔ ∃ s, .host a s none ∈ js ∧ s.isValid = true := by
  rw [parseValidServers_fold, mem_addValid, or_iff_right List.not_mem_nil]
  constructor
  · rintro ⟨s, n, mem, valid⟩
    rw [valid_text, Bool.and_eq_true, Option.isNone_iff_eq_none] at valid
    exact ⟨s, valid.1 ▸ mem, valid.2⟩
  · rintro ⟨s, mem, valid⟩
    exact ⟨s, none, mem, by rw [valid_text, valid]; rfl⟩

end Read

end GlusterBlock
