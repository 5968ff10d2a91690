import GlusterBlock.ExecLog
import GlusterBlock.LogSecrecy

/-! What the mask of the daemon log hides. In every line it hides one value: the text from
behind an `=` or a quote up to the next stop. A password that is printed behind the quote of
an echo is hidden when this value is the one, and stays readable otherwise. -/
namespace GlusterBlock

open Search

section Value

variable {line r : Text}

theorem starValue_open {l s : Text} (opened : ∀ c ∈ l, atExecStop c = false)
    (stops : ∀ c ∈ s.head?, atExecStop c = true) :
    starValue (l ++ s) = l.map maskChar ++ s := by
  induction l with
  | nil =>
    cases s with
    | nil => rfl
    | cons c s => rw [List.nil_append, starValue, if_pos (stops c rfl)]; rfl
  | cons c l ih =>
    rw [List.cons_append, starValue, opened c List.mem_cons_self, if_neg Bool.false_ne_true,
      ih (fun d mem => opened d (List.mem_cons_of_mem c mem))]
    rfl

/-- The value is hidden up to its first stop. -/
theorem starValue_split (value : Text) : ∃ l s, value = l ++ s ∧
    starValue value = l.map maskChar ++ s ∧ ∀ c ∈ l, atExecStop c = false := by
  induction value with
  | nil => exact ⟨[], [], rfl, rfl, by simp⟩
  | cons c cs ih =>
    rw [starValue]
    by_cases stop : atExecStop c = true
    · exact ⟨[], c :: cs, rfl, by rw [if_pos stop]; rfl, by simp⟩
    · obtain ⟨l, s, split, hidden, opened⟩ := ih
      refine ⟨c :: l, s, by rw [split]; rfl, by rw [if_neg stop, hidden]; rfl, ?_⟩
      intro d mem
      rcases List.mem_cons.mp mem with same | mem
      · rw [same]
        exact Bool.eq_false_iff.mpr stop
      · exact opened d mem

theorem after_split {c : Char} {l v : Text} (found : CText.after c l = some v) :
    ∃ u, l = u ++ c :: v ∧ c ∉ u := by
  induction l with
  | nil => cases found
  | cons a l ih =>
    rw [CText.after] at found
    split at found
    · rename_i same
      obtain rfl := Option.some.inj found
      exact ⟨[], by rw [same]; rfl, by simp⟩
    · rename_i other
      obtain ⟨u, split, away⟩ := ih found
      exact ⟨a :: u, by rw [split]; rfl, by simp [away, Ne.symm other]⟩

/-- Where the mask of a line starts. -/
def valueOf (line : Text) : Option Text :=
  (strstr passwordArg line <|> strstr passwordEcho line).bind (fun ptr =>
    CText.after '=' ptr <|> CText.after '\'' ptr)

/-- The value stands behind an `=` or a quote. -/
theorem valueOf_split {value : Text} (found : valueOf line = some value) :
    ∃ front c, line = front ++ c :: value ∧ (c = '=' ∨ c = '\'') := by
  obtain ⟨ptr, there, behind⟩ := Option.bind_eq_some_iff.mp found
  have suffix : ptr <:+ line := by
    cases arg : strstr passwordArg line with
    | some s =>
      rw [arg] at there
      exact Option.some.inj there ▸ (strstr_suffix arg).1
    | none =>
      rw [arg] at there
      exact (strstr_suffix there).1
  obtain ⟨before, rfl⟩ := suffix
  cases equals : CText.after '=' ptr with
  | some v =>
    rw [equals] at behind
    obtain rfl := Option.some.inj behind
    obtain ⟨u, split, _⟩ := after_split equals
    exact ⟨before ++ u, '=', by rw [split]; simp, .inl rfl⟩
  | none =>
    rw [equals] at behind
    obtain ⟨u, split, _⟩ := after_split behind
    exact ⟨before ++ u, '\'', by rw [split]; simp, .inr rfl⟩

/-- A line that can be masked: nothing is found in it, or what is found has a value. -/
def Readable (line : Text) : Prop :=
  passwordArg <:+: line ∨ ∀ ptr, strstr passwordEcho line = some ptr → '=' ∈ ptr ∨ '\'' ∈ ptr

theorem after_isSome {c : Char} {l : Text} : (CText.after c l).isSome ↔ c ∈ l := by
  constructor
  · intro found
    obtain ⟨v, found⟩ := Option.isSome_iff_exists.mp found
    obtain ⟨u, split, _⟩ := after_split found
    simp [split]
  · intro mem
    by_contra none
    induction l with
    | nil => cases mem
    | cons a l ih =>
      rw [CText.after] at none
      split at none
      · exact none rfl
      · rename_i other
        rcases List.mem_cons.mp mem with same | mem
        · exact other same.symm
        · exact ih mem none

theorem clipLine_isSome : (clipLine line).isSome ↔ Readable line := by
  have reads : ∀ ptr : Text, (CText.after '=' ptr <|> CText.after '\'' ptr).isSome ↔
      '=' ∈ ptr ∨ '\'' ∈ ptr := by
    intro ptr
    rw [← after_isSome, ← after_isSome]
    cases CText.after '=' ptr <;> simp
  cases arg : strstr passwordArg line with
  | some ptr =>
    have occurs : passwordArg <:+: line := by
      by_contra missing
      rw [strstr_none.mpr missing] at arg
      cases arg
    have equals : '=' ∈ ptr := (strstr_suffix arg).2.subset (by decide)
    have found : (strstr passwordArg line <|> strstr passwordEcho line) = some ptr := by
      rw [arg]
      rfl
    unfold clipLine
    rw [found]
    dsimp only
    rw [Option.isSome_map, reads]
    exact iff_of_true (.inl equals) (.inl occurs)
  | none =>
    have found : (strstr passwordArg line <|> strstr passwordEcho line) =
        strstr passwordEcho line := by
      rw [arg]
      rfl
    unfold clipLine Readable
    rw [found, or_iff_right (strstr_none.mp arg)]
    cases strstr passwordEcho line with
    | none => simp
    | some ptr =>
      dsimp only
      rw [Option.isSome_map, reads]
      simp

/-- A masked line is the line with one stretch hidden, that begins behind an `=` or a quote. -/
theorem clipLine_split (masked : clipLine line = some r) :
    ∃ a l s, line = a ++ (l ++ s) ∧ r = a ++ (l.map maskChar ++ s) ∧
      (∀ c ∈ l, atExecStop c = false) ∧
      (l = [] ∨ valueOf line = some (l ++ s)) := by
  unfold clipLine at masked
  unfold valueOf
  cases found : strstr passwordArg line <|> strstr passwordEcho line with
  | none =>
    rw [found] at masked
    exact ⟨line, [], [], by simp, by simpa using masked.symm, by simp, .inl rfl⟩
  | some ptr =>
    rw [found] at masked
    obtain ⟨value, there, shown⟩ := Option.map_eq_some_iff.mp masked
    have start : valueOf line = some value := by
      unfold valueOf
      rw [found]
      exact there
    obtain ⟨front, c, split, _⟩ := valueOf_split start
    obtain ⟨l, s, parts, hidden, opened⟩ := starValue_split value
    refine ⟨front ++ [c], l, s, by rw [split, parts]; simp, ?_, opened, .inr ?_⟩
    · have before : line.take (line.length - value.length) = front ++ [c] := by
        have cut : line = (front ++ [c]) ++ value := by rw [split]; simp
        rw [cut]
        refine List.take_left' ?_
        simp only [List.length_append, List.length_cons, List.length_nil]
        omega
      rw [← shown, before, hidden]
    · rw [← parts]
      exact there

theorem clipLine_length (masked : clipLine line = some r) : r.length = line.length := by
  obtain ⟨a, l, s, split, shown, _⟩ := clipLine_split masked
  rw [split, shown]
  simp

end Value

section Echo

/-- How the echo of a password begins. -/
def echoMark : Text := passwordEcho ++ " '".toList

def echo (p : Text) : Text := echoMark ++ (p ++ ['\''])

variable {front back : Text} {p q : String}

/-- What a UUID has no part in. -/
theorem uuid_not_mem (uuid : isUuid p = true) {c : Char} (hex : isHex c = false) (dash : c ≠ '-') :
    c ∉ p.toList := by
  intro mem
  rcases uuid_char uuid mem with h | h
  · rw [hex] at h
    cases h
  · exact dash h

theorem uuid_open (uuid : isUuid p = true) : ∀ c ∈ p.toList, atExecStop c = false := by
  intro c mem
  have not {d : Char} (hex : isHex d = false) (dash : d ≠ '-') : c ≠ d := by
    rintro rfl
    exact uuid_not_mem uuid hex dash mem
  have newline := not (d := '\n') (by decide) (by decide)
  have null := not (d := '\x00') (by decide) (by decide)
  have blank := not (d := ' ') (by decide) (by decide)
  have quote := not (d := '\'') (by decide) (by decide)
  have dot := not (d := '.') (by decide) (by decide)
  simp [atExecStop, newline, null, blank, quote, dot]

/-- `password=` is not a part of an echo. -/
theorem arg_echo (uuid : isUuid p = true) :
    passwordArg <:+: front ++ (echo p.toList ++ back) ↔
      passwordArg <:+: front ∨ passwordArg <:+: back := by
  have shape : front ++ (echo p.toList ++ back) = front ++ 'P' ::
      ("arameter password is now ".toList ++ '\'' :: (p.toList ++ '\'' :: back)) := by
    simp only [echo, List.append_assoc]
    rfl
  have label : ¬ passwordArg <:+: "arameter password is now ".toList :=
    not_infix_of_notMem (c := '=') (by decide) (by decide)
  have secret : ¬ passwordArg <:+: p.toList :=
    not_infix_of_notMem (c := 's') (by decide) (uuid_not_mem uuid (by decide) (by decide))
  rw [shape, infix_apart (by decide) (by decide), infix_apart (by decide) (by decide),
    infix_apart (by decide) (by decide), or_iff_right label, or_iff_right secret]

/-- What is found of the marker of an echo: it is in front of it, or the echo's own. -/
def found (front : Text) : Text := (strstr passwordEcho front).getD []

theorem strstr_echo (front rest : Text) : ∃ s, strstr passwordEcho (front ++ (echoMark ++ rest)) =
    some (s ++ (echoMark ++ rest)) ∧ s = found front := by
  unfold found
  cases there : strstr passwordEcho front with
  | some s => exact ⟨s, strstr_append there, rfl⟩
  | none =>
    refine ⟨[], ?_, rfl⟩
    have marked := strstr_marked (h := 'P') (t := "arameter password is now".toList)
      (r := " '".toList ++ rest) (by decide) (strstr_none.mp there)
    rw [echoMark, List.append_assoc]
    exact marked

/-- The mask finds the echo, and not something else in its line. -/
structure Alone (front back : Text) : Prop where
  arg : ¬ passwordArg <:+: front
  before : '=' ∉ found front ∧ '\'' ∉ found front
  behind : '=' ∉ back

theorem echo_split (front back p : Text) :
    front ++ (echo p ++ back) = (front ++ "Parameter password is now ".toList) ++ '\'' ::
      (p ++ '\'' :: back) := by
  simp only [echo, List.append_assoc]
  rfl

theorem strstr_ptr (front back p : Text) :
    strstr passwordEcho (front ++ (echo p ++ back)) =
      some ((found front ++ "Parameter password is now ".toList) ++ '\'' :: (p ++ '\'' :: back)) := by
  obtain ⟨s, there, same⟩ := strstr_echo front (p ++ '\'' :: back)
  have shape : front ++ (echo p ++ back) = front ++ (echoMark ++ (p ++ '\'' :: back)) := by
    simp only [echo, List.append_assoc]
    rfl
  rw [shape, there, same, List.append_assoc]
  rfl

theorem clipLine_value {line value : Text} (there : valueOf line = some value) :
    clipLine line = some (line.take (line.length - value.length) ++ starValue value) := by
  obtain ⟨ptr, here, behind⟩ := Option.bind_eq_some_iff.mp there
  unfold clipLine
  rw [here]
  dsimp only
  rw [behind]
  rfl

theorem valueOf_echo (uuid : isUuid p = true) (alone : Alone front back) :
    valueOf (front ++ (echo p.toList ++ back)) = some (p.toList ++ '\'' :: back) := by
  have noArg : strstr passwordArg (front ++ (echo p.toList ++ back)) = none := by
    rw [strstr_none, arg_echo uuid, not_or]
    exact ⟨alone.arg, not_infix_of_notMem (c := '=') (by decide) alone.behind⟩
  have label : '=' ∉ "Parameter password is now ".toList ∧
      '\'' ∉ "Parameter password is now ".toList := by decide
  have noEquals : CText.after '=' ((found front ++ "Parameter password is now ".toList) ++ '\'' ::
      (p.toList ++ '\'' :: back)) = none := by
    apply CText.after_none
    simp only [List.mem_append, List.mem_cons, not_or]
    exact ⟨⟨alone.before.1, label.1⟩, by decide, uuid_not_mem uuid (by decide) (by decide),
      by decide, alone.behind⟩
  have quote : CText.after '\'' ((found front ++ "Parameter password is now ".toList) ++ '\'' ::
      (p.toList ++ '\'' :: back)) = some (p.toList ++ '\'' :: back) := by
    apply CText.after_of
    simp only [List.mem_append, not_or]
    exact ⟨alone.before.2, label.2⟩
  unfold valueOf
  rw [noArg, strstr_ptr]
  change (CText.after '=' _ <|> CText.after '\'' _) = _
  rw [noEquals, quote]
  rfl

/-- Then the password is hidden. -/
theorem clipLine_echo (uuid : isUuid p = true) (alone : Alone front back) :
    clipLine (front ++ (echo p.toList ++ back)) =
      some (front ++ (echoMark ++ (List.replicate 36 '*' ++ '\'' :: back))) := by
  have stopped : starValue (p.toList ++ '\'' :: back) = List.replicate 36 '*' ++ '\'' :: back := by
    rw [starValue_open (uuid_open uuid) (fun c mem => by obtain rfl := Option.some.inj mem; decide),
      uuid_stars uuid]
  rw [clipLine_value (valueOf_echo uuid alone), stopped]
  have before : (front ++ (echo p.toList ++ back)).take ((front ++ (echo p.toList ++ back)).length -
      (p.toList ++ '\'' :: back).length) = front ++ echoMark := by
    have cut : front ++ (echo p.toList ++ back) = (front ++ echoMark) ++ (p.toList ++ '\'' :: back) := by
      simp only [echo, List.append_assoc]
      rfl
    rw [cut, List.length_append, Nat.add_sub_cancel]
    exact List.take_left
  rw [before, List.append_assoc]

/-- A value that begins in the echo is only found behind its quote. -/
theorem alone_of_value (uuid : isUuid p = true)
    (there : valueOf (front ++ (echo p.toList ++ back)) = some (p.toList ++ '\'' :: back)) :
    Alone front back := by
  have quoted : ∀ ptr, ptr <:+ front ++ (echo p.toList ++ back) →
      CText.after '=' ptr ≠ some (p.toList ++ '\'' :: back) := by
    rintro ptr ⟨w, whole⟩ behind
    obtain ⟨u, split, _⟩ := after_split behind
    have twice : (w ++ u ++ ['=']) ++ (p.toList ++ '\'' :: back) =
        ((front ++ "Parameter password is now ".toList) ++ ['\'']) ++ (p.toList ++ '\'' :: back) := by
      rw [split, echo_split] at whole
      simpa using whole
    have ends := List.append_cancel_right twice
    have last := congrArg List.getLast? ends
    rw [List.getLast?_concat, List.getLast?_concat] at last
    exact absurd (Option.some.inj last) (by decide)
  unfold valueOf at there
  cases arg : strstr passwordArg (front ++ (echo p.toList ++ back)) with
  | some ptr =>
    rw [arg] at there
    change (CText.after '=' ptr <|> CText.after '\'' ptr) = _ at there
    have equals : (CText.after '=' ptr).isSome :=
      after_isSome.mpr ((strstr_suffix arg).2.subset (by decide))
    obtain ⟨v, behind⟩ := Option.isSome_iff_exists.mp equals
    rw [behind] at there
    exact absurd (behind.trans there) (quoted ptr (strstr_suffix arg).1)
  | none =>
    have noArg := strstr_none.mp arg
    rw [arg_echo uuid, not_or] at noArg
    rw [arg, strstr_ptr] at there
    change (CText.after '=' _ <|> CText.after '\'' _) = _ at there
    cases equals : CText.after '=' ((found front ++ "Parameter password is now ".toList) ++ '\'' ::
        (p.toList ++ '\'' :: back)) with
    | some v =>
      rw [equals] at there
      exact absurd (equals.trans there) (quoted _ (strstr_suffix (strstr_ptr front back p.toList)).1)
    | none =>
      have noEquals : '=' ∉ (found front ++ "Parameter password is now ".toList) ++ '\'' ::
          (p.toList ++ '\'' :: back) := by
        intro mem
        have some := after_isSome.mpr mem
        rw [equals] at some
        cases some
      simp only [List.mem_append, List.mem_cons, not_or] at noEquals
      rw [equals] at there
      change CText.after '\'' _ = _ at there
      obtain ⟨u, split, away⟩ := after_split there
      have front' : found front ++ "Parameter password is now ".toList = u :=
        List.append_cancel_right split
      refine ⟨noArg.1, ⟨noEquals.1.1, fun mem => ?_⟩, noEquals.2.2.2.2⟩
      exact away (front' ▸ List.mem_append_left _ mem)

end Echo

section Shown

variable {p q : String} {line line' r x x' y y' : Text}

theorem stretch_get {a l s : Text} (f : Char → Char) (i : Nat) :
    (a ++ (l.map f ++ s))[i]? =
      if a.length ≤ i ∧ i < a.length + l.length then ((a ++ (l ++ s))[i]?).map f
      else (a ++ (l ++ s))[i]? := by
  rcases Nat.lt_or_ge i a.length with front | behind
  · rw [if_neg (by omega), List.getElem?_append_left front, List.getElem?_append_left front]
  · rw [List.getElem?_append_right behind, List.getElem?_append_right behind]
    rcases Nat.lt_or_ge (i - a.length) l.length with inside | out
    · rw [if_pos (by omega), List.getElem?_append_left (by simpa using inside),
        List.getElem?_append_left inside, List.getElem?_map]
    · rw [if_neg (by omega), List.getElem?_append_right (by simpa using out),
        List.getElem?_append_right out, List.length_map]

/-- Two different passwords that leave the same line are both hidden, so the value that is
hidden begins behind the quote. -/
theorem secret_hidden (hp : isUuid p = true) (hq : isUuid q = true) (other : p ≠ q)
    (masked : clipLine line = some r) (masked' : clipLine line' = some r)
    (split : line = x ++ '\'' :: (p.toList ++ y)) (split' : line' = x' ++ '\'' :: (q.toList ++ y'))
    (same : x.length = x'.length) : valueOf line = some (p.toList ++ y) := by
  obtain ⟨d, differ⟩ : ∃ d, p.toList[d]? ≠ q.toList[d]? := by
    by_contra all
    push Not at all
    exact other (String.toList_inj.mp (List.ext_getElem? all))
  have short : d < 36 := by
    by_contra out
    rw [List.getElem?_eq_none (by rw [uuid_length hp]; omega), List.getElem?_eq_none (by rw [uuid_length hq]; omega)]
      at differ
    exact differ rfl
  -- what stands at the place where the passwords differ
  have at_p {u : String} {w z : Text} (uuid : isUuid u = true) :
      (w ++ '\'' :: (u.toList ++ z))[w.length + 1 + d]? = u.toList[d]? := by
    rw [List.getElem?_append_right (by omega)]
    have index : w.length + 1 + d - w.length = d + 1 := by omega
    rw [index, List.getElem?_cons_succ, List.getElem?_append_left (by rw [uuid_length uuid]; exact short)]
  have stars {u : String} (uuid : isUuid u = true) :
      (u.toList[d]?).map maskChar = some '*' := by
    rw [← List.getElem?_map, uuid_stars uuid, List.getElem?_replicate_of_lt short]
  have star {u : String} (uuid : isUuid u = true) : u.toList[d]? ≠ some '*' := fun there =>
    uuid_not_mem uuid (by decide) (by decide) (List.mem_of_getElem? there)
  obtain ⟨a, l, s, parts, shown, opened, start⟩ := clipLine_split masked
  obtain ⟨a', l', s', parts', shown', _⟩ := clipLine_split masked'
  have here : r[x.length + 1 + d]? = if a.length ≤ x.length + 1 + d ∧
      x.length + 1 + d < a.length + l.length then some '*' else p.toList[d]? := by
    rw [shown, stretch_get, ← parts, split, at_p hp, stars hp]
  have there : r[x.length + 1 + d]? = if a'.length ≤ x.length + 1 + d ∧
      x.length + 1 + d < a'.length + l'.length then some '*' else q.toList[d]? := by
    rw [shown', stretch_get, ← parts', split', same, at_p hq, stars hq]
  have inside : a.length ≤ x.length + 1 + d ∧ x.length + 1 + d < a.length + l.length := by
    by_contra out
    rw [if_neg out, there] at here
    split at here
    · exact star hp here.symm
    · exact differ here.symm
  have value : valueOf line = some (l ++ s) := by
    refine start.resolve_left (fun empty => ?_)
    rw [empty] at inside
    simp only [List.length_nil] at inside
    omega
  have low : x.length < a.length := by
    by_contra before
    have quote : (line)[x.length]? = some '\'' := by
      rw [split, List.getElem?_append_right (Nat.le_refl _), Nat.sub_self]
      rfl
    rw [parts, List.getElem?_append_right (by omega), List.getElem?_append_left (by omega)] at quote
    exact absurd (opened '\'' (List.mem_of_getElem? quote)) (by decide)
  obtain ⟨front, c, found, mark⟩ := valueOf_split value
  have ends : front.length + 1 = a.length := by
    have both := congrArg List.length (found.symm.trans parts)
    simp only [List.length_append, List.length_cons] at both
    omega
  have high : a.length ≤ x.length + 1 := by
    by_contra later
    have inner : (line)[front.length]? = some c := by
      rw [found, List.getElem?_append_right (Nat.le_refl _), Nat.sub_self]
      rfl
    obtain ⟨k, index⟩ : ∃ k, front.length = x.length + 1 + k := ⟨front.length - (x.length + 1), by omega⟩
    rw [split, index, List.getElem?_append_right (by omega)] at inner
    have step : x.length + 1 + k - x.length = k + 1 := by omega
    rw [step, List.getElem?_cons_succ, List.getElem?_append_left (by rw [uuid_length hp]; omega)] at inner
    have mem := List.mem_of_getElem? inner
    rcases mark with rfl | rfl
    · exact uuid_not_mem hp (by decide) (by decide) mem
    · exact uuid_not_mem hp (by decide) (by decide) mem
  have whole : (x ++ ['\'']) ++ (p.toList ++ y) = a ++ (l ++ s) := by
    rw [← parts, split]
    simp
  have tails := (List.append_inj whole (by simp; omega)).2
  rw [value, tails]

end Shown

end GlusterBlock
