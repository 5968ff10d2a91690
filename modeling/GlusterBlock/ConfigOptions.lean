import GlusterBlock.ConfigFile

/-! What the lines of one version make of the options. An option has the type of the first
value its key was ever given, and the value of its last assignment. -/
namespace GlusterBlock.DynConfig

def valuesOf (key : List Char) (as : List Assignment) : List (List Char) :=
  (as.filter (fun a => a.key = key)).map Assignment.value

/-- The type a key is registered with. -/
def kind (key : List Char) (as : List Assignment) : Option OptionType :=
  (valuesOf key as).head?.map rawType

def lastValue (key : List Char) (as : List Assignment) : Option (List Char) :=
  (valuesOf key as).getLast?

/-- What an option of this type makes of the text. -/
def readValue : OptionType → List Char → OptValue
  | .int, text => .int ((intValue text).getD 0)
  | .str, text => .str (strValue text)
  | .bool, _ => .bool

/-- The union holds what its type says. -/
def Tagged (option : ConfOption) : Prop :=
  (option.type = .int ∧ ∃ n, option.value = .int n) ∨
    (option.type = .str ∧ ∃ text, option.value = .str text)

section Values

variable {key : List Char} {as bs : List Assignment} {a : Assignment}

theorem valuesOf_append : valuesOf key (as ++ bs) = valuesOf key as ++ valuesOf key bs := by
  simp [valuesOf]

theorem valuesOf_single (a : Assignment) : valuesOf a.key [a] = [a.value] := by
  simp [valuesOf]

theorem valuesOf_other (other : a.key ≠ key) : valuesOf key [a] = [] := by
  simp [valuesOf, other]

theorem kind_append : kind key (as ++ bs) = (kind key as).or (kind key bs) := by
  unfold kind
  rw [valuesOf_append, List.head?_append]
  cases (valuesOf key as).head? <;> rfl

/-- A key keeps its type. -/
theorem kind_kept {type : OptionType} (known : kind key as = some type) :
    kind key (as ++ bs) = some type := by
  rw [kind_append, known]
  rfl

theorem rawType_ne_bool (text : List Char) : rawType text ≠ .bool := by
  unfold rawType
  split <;> simp

end Values

section Null

variable {text : List Char}

theorem takeWhile_null {p : Char → Bool} (stops : p '\x00' = false) :
    (text ++ ['\x00']).takeWhile p = text.takeWhile p := by
  induction text with
  | nil => simp [stops]
  | cons c text ih => simp only [List.cons_append, List.takeWhile_cons, ih]

theorem dropWhile_null {p : Char → Bool} (stops : p '\x00' = false) :
    (text ++ ['\x00']).dropWhile p = text.dropWhile p ++ ['\x00'] := by
  induction text with
  | nil => simp [stops]
  | cons c text ih =>
    simp only [List.cons_append, List.dropWhile_cons, ih]
    split <;> rfl

/-- The value without the quote in front. -/
def unquoted (text : List Char) : List Char :=
  let s := text.dropWhile isBlank
  if s.head?.any isQuote then s.tail else s

/-- The value ends in a quote of its own. -/
def closesQuote (text : List Char) : Bool :=
  ((unquoted text).reverse.dropWhile isBlank).head?.any isQuote

theorem unquoted_null : unquoted (text ++ ['\x00']) = unquoted text ++ ['\x00'] := by
  unfold unquoted
  rw [dropWhile_null (by decide)]
  dsimp only
  cases text.dropWhile isBlank with
  | nil => rfl
  | cons c rest =>
    rw [List.cons_append]
    cases quote : isQuote c <;> simp [quote]

theorem rawType_null : rawType (text ++ ['\x00']) = rawType text := by
  unfold rawType
  rw [dropWhile_null (by decide)]
  cases text.dropWhile isBlank <;> rfl

theorem intValue_null : intValue (text ++ ['\x00']) = intValue text := by
  have digits : ((text ++ ['\x00']).dropWhile (fun c => !c.isDigit)).takeWhile Char.isDigit =
      (text.dropWhile (fun c => !c.isDigit)).takeWhile Char.isDigit := by
    rw [List.dropWhile_append]
    cases left : text.dropWhile (fun c => !c.isDigit) with
    | nil => rfl
    | cons c rest => exact takeWhile_null (by decide)
  unfold intValue
  rw [digits]

/-- A value without an end is the whole text, and else its last character decides. -/
theorem strValue_ends (text : List Char) :
    ((unquoted text).reverse.dropWhile isBlank = [] → strValue text = cstr (unquoted text)) ∧
      ∀ c front, (unquoted text).reverse.dropWhile isBlank = c :: front →
        strValue text = if isQuote c then cstr front.reverse else cstr (unquoted text) := by
  unfold strValue unquoted
  dsimp only
  constructor
  · intro none
    rw [none]
  · intro c front some
    rw [some]

/-- Behind a null only the closing quote stays. -/
theorem strValue_null (closes : closesQuote text = false) :
    strValue (text ++ ['\x00']) = strValue text := by
  have behind : strValue (text ++ ['\x00']) = cstr (unquoted text) := by
    have last : (unquoted (text ++ ['\x00'])).reverse.dropWhile isBlank =
        '\x00' :: (unquoted text).reverse := by
      rw [unquoted_null, List.reverse_append, List.reverse_singleton, List.singleton_append,
        List.dropWhile_cons_of_neg (by decide)]
    rw [(strValue_ends _).2 _ _ last, if_neg (by decide), unquoted_null]
    exact takeWhile_null rfl
  rw [behind]
  unfold closesQuote at closes
  cases left : (unquoted text).reverse.dropWhile isBlank with
  | nil => exact ((strValue_ends text).1 left).symm
  | cons c front =>
    rw [left] at closes
    have other : ¬ isQuote c = true := Bool.eq_false_iff.mp closes
    rw [(strValue_ends text).2 c front left, if_neg other]

end Null

section Line

variable {a : Assignment} {e : List Char} {options : Options}

/-- A line in front of its end: where it starts, what is behind its `=`, and its key. -/
theorem line_parts (a : Assignment) (e : List Char) :
    let p := (a.body ++ e).dropWhile isBlank
    '=' ∈ cstr p ∧ CText.after '=' p = some (a.value ++ e) ∧
      ((p.takeWhile (· != '=')).reverse.dropWhile isBlank).reverse = a.key := by
  have start : (a.body ++ e).dropWhile isBlank = (a.key ++ a.gap) ++ '=' :: (a.value ++ e) := by
    rw [Assignment.body]
    simp only [List.append_assoc, List.cons_append]
    exact dropWhile_indent a _ _ (fun c blank => blank) (fun c mem => (a.named.first c mem).1)
  have plain : ∀ c ∈ a.key ++ a.gap, c ≠ '=' ∧ c ≠ '\x00' := by
    intro c mem
    have front := front_plain a (.inr (List.mem_append.mp mem))
    exact ⟨front.1, front.2.2.1⟩
  dsimp only
  rw [start]
  refine ⟨?_, CText.after_of (fun mem => (plain _ mem).1 rfl), ?_⟩
  · unfold cstr
    rw [List.takeWhile_append_of_pos (fun c mem => by simpa using (plain c mem).2)]
    simp
  · rw [List.takeWhile_append_of_pos (fun c mem => by simpa using (plain c mem).1)]
    have blanks : ∀ c ∈ a.gap.reverse, isBlank c = true :=
      fun c mem => List.all_eq_true.mp a.spaced c (List.mem_reverse.mp mem)
    simp only [bne_self_eq_false, Bool.false_eq_true, not_false_eq_true,
      List.takeWhile_cons_of_neg, List.append_nil, List.reverse_append]
    rw [List.dropWhile_append_of_pos blanks]
    cases last : a.key.reverse with
    | nil => exact absurd (List.reverse_eq_nil_iff.mp last) a.named.nonempty
    | cons c front =>
      have mem : c ∈ a.key.getLast? := by
        rw [← List.head?_reverse, last]
        rfl
      rw [List.dropWhile_cons_of_neg (by simp [a.named.last c mem]), ← last, List.reverse_reverse]

/-- What a line makes of the options. -/
def assigned (a : Assignment) (o : ConfOption) (options : Options) : Options :=
  Function.update options a.key (some ⟨o.type, readValue o.type a.value⟩)

/-- An option takes a text of its own type. -/
def Ready (o : ConfOption) (text : List Char) : Prop :=
  o.type = .int ∧ (intValue text).isSome ∨
    o.type = .str ∧ (o.value = .unset ∨ ∃ old, o.value = .str old)

/-- A line only changes its own option, and reads itself as the type of that. -/
theorem parse_body {o : ConfOption} (rest : List Char)
    (found : (options a.key).getD ⟨rawType (a.value ++ e), .unset⟩ = o)
    (ready : Ready o (a.value ++ e)) :
    glusterBlockParseOption (a.body ++ e) rest options =
      some (Function.update options a.key (some ⟨o.type, readValue o.type (a.value ++ e)⟩), rest) := by
  obtain ⟨equals, value, key⟩ := line_parts a e
  unfold glusterBlockParseOption
  dsimp only at equals value key ⊢
  rw [if_pos equals, value]
  dsimp only
  rw [key, if_neg a.named.nonempty, found]
  rcases ready with ⟨type, digits⟩ | ⟨type, old⟩
  · obtain ⟨n, number⟩ := Option.isSome_iff_exists.mp digits
    rw [type]
    dsimp only
    rw [number]
    simp [readValue, number, ← type]
  · rw [type]
    dsimp only
    rcases old with unset | ⟨text, str⟩
    · rw [unset]
      simp [readValue, ← type]
    · rw [str]
      simp [readValue, ← type]

theorem parse_line {o : ConfOption} (rest : List Char)
    (found : (options a.key).getD ⟨rawType a.value, .unset⟩ = o) (ready : Ready o a.value) :
    glusterBlockParseOption a.body rest options = some (assigned a o options, rest) := by
  have line := @parse_body a [] options o rest (by simpa using found) (by simpa using ready)
  rw [List.append_nil, List.append_nil] at line
  exact line

theorem body_line (a : Assignment) (oneLine : '\r' ∉ a.value) : ∀ c ∈ a.body, isEol c = false := by
  intro c mem
  rcases mem_body.mp mem with front | equals | mem
  · exact (front_plain a front).2.1
  · subst equals
    decide
  · have newline : c ≠ '\n' := fun same => a.inLine.1 (same ▸ mem)
    have feed : c ≠ '\r' := fun same => oneLine (same ▸ mem)
    simp [isEol, newline, feed]

/-- A line in the buffer ends in front of the first of its ends. -/
theorem parse_step {line rest : List Char} {c : Char} (fuel : Nat)
    (inLine : ∀ d ∈ line, isEol d = false) (eol : isEol c) :
    parseLines (fuel + 1) (line ++ c :: rest) options =
      (glusterBlockParseOption line rest options).bind (fun r => parseLines fuel r.2 r.1) := by
  have whole : (line ++ c :: rest).takeWhile (fun d => !isEol d) = line := by
    rw [List.takeWhile_append_of_pos (fun d mem => by simpa using inLine d mem)]
    simp [eol]
  rw [parseLines, if_neg (by simp)]
  dsimp only
  rw [whole]
  have behind : (line ++ c :: rest).drop (line.length + 1) = rest := by
    rw [← List.drop_drop, List.drop_left]
    rfl
  rw [behind]
  cases glusterBlockParseOption line rest options <;> rfl

/-- The last line ends at the end of the buffer. -/
theorem parse_last {line : List Char} (fuel : Nat) (some : line ≠ [])
    (inLine : ∀ d ∈ line, isEol d = false) :
    parseLines (fuel + 1) line options =
      (glusterBlockParseOption line [] options).bind (fun r => parseLines fuel r.2 r.1) := by
  have whole : line.takeWhile (fun d => !isEol d) = line :=
    List.takeWhile_eq_self_iff.mpr (fun d mem => by simpa using inLine d mem)
  rw [parseLines, if_neg some]
  dsimp only
  rw [whole, List.drop_of_length_le (Nat.le_succ _)]
  cases glusterBlockParseOption line [] options <;> rfl

/-- What is left between two ends of a line has the empty key. -/
theorem parse_nulls {line : List Char} (rest : List Char) (nulls : ∀ c ∈ line, c = '\x00') :
    glusterBlockParseOption line rest options = some (parseBool line options, rest) := by
  have empty : cstr line = [] := by
    cases line with
    | nil => rfl
    | cons c line => simp [cstr, nulls c List.mem_cons_self]
  have start : line.dropWhile isBlank = line := by
    cases line with
    | nil => rfl
    | cons c line =>
      rw [List.dropWhile_cons_of_neg (by rw [nulls c List.mem_cons_self]; decide)]
  unfold glusterBlockParseOption
  dsimp only
  rw [start, empty, if_neg (by simp)]

theorem parseBool_nulls {line key : List Char} (nulls : ∀ c ∈ line, c = '\x00') (named : key ≠ []) :
    parseBool line options key = options key := by
  have empty : cstr (line.takeWhile (fun c => !isBlank c)) = [] := by
    cases line with
    | nil => rfl
    | cons c line =>
      rw [nulls c List.mem_cons_self, List.takeWhile_cons_of_pos (by decide)]
      rfl
  unfold parseBool
  rw [empty]
  exact Function.update_of_ne named ..

/-- One line with its newline, and the empty one behind a carriage return. -/
theorem parse_text {o : ConfOption} (oneLine : '\r' ∉ a.value)
    (found : (options a.key).getD ⟨rawType a.value, .unset⟩ = o) (ready : Ready o a.value) :
    ∃ k ≤ (a.text ++ ['\n']).length, ∃ options' : Options,
      (∀ key ≠ [], options' key = assigned a o options key) ∧
      ∀ fuel rest, parseLines (fuel + k) ((a.text ++ ['\n']) ++ rest) options =
        parseLines fuel rest options' := by
  have body (rest : List Char) := parse_line rest found ready
  have inLine := body_line a oneLine
  unfold Assignment.text
  cases crlf : a.crlf with
  | false =>
    refine ⟨1, by simp, assigned a o options, fun key _ => rfl, fun fuel rest => ?_⟩
    rw [if_neg (by decide), List.append_nil, List.append_assoc, List.singleton_append,
      parse_step fuel inLine (by decide), body]
    rfl
  | true =>
    refine ⟨2, by simp, parseBool [] (assigned a o options),
      fun key named => parseBool_nulls (by simp) named, fun fuel rest => ?_⟩
    rw [if_pos rfl, List.append_assoc, List.append_assoc, List.singleton_append,
      List.singleton_append, parse_step (fuel + 1) inLine (by decide), body]
    have empty : parseLines (fuel + 1) ([] ++ '\n' :: rest) (assigned a o options) = _ :=
      parse_step fuel (by simp) (by decide)
    rw [parse_nulls rest (by simp)] at empty
    exact empty

theorem parse_end (fuel : Nat) :
    parseLines (fuel + 2) ['\x00'] options = some (parseBool ['\x00'] options) := by
  rw [parse_last (fuel + 1) (by simp) (by simp [isEol]), parse_nulls [] (by simp)]
  rfl

/-- The line at the end of the buffer. -/
theorem parse_tail {o : ConfOption} (oneLine : '\r' ∉ a.value)
    (found : (options a.key).getD ⟨rawType a.value, .unset⟩ = o) (ready : Ready o a.value)
    (uncut : a.crlf = false → o.type = .str → closesQuote a.value = false) :
    ∃ options' : Options, (∀ key ≠ [], options' key = assigned a o options key) ∧
      ∀ fuel, parseLines (fuel + 3) (a.text ++ ['\x00']) options = some options' := by
  have inLine := body_line a oneLine
  unfold Assignment.text
  cases crlf : a.crlf with
  | false =>
    refine ⟨assigned a o options, fun key _ => rfl, fun fuel => ?_⟩
    have same : readValue o.type (a.value ++ ['\x00']) = readValue o.type a.value := by
      cases type : o.type with
      | int => simp only [readValue, intValue_null]
      | str => simp only [readValue, strValue_null (uncut crlf type)]
      | bool => rfl
    have nulled : Ready o (a.value ++ ['\x00']) := by
      unfold Ready
      rw [intValue_null]
      exact ready
    have line := parse_body [] (by rw [rawType_null]; exact found) nulled
    have ends : ∀ d ∈ a.body ++ ['\x00'], isEol d = false := by
      intro d mem
      rcases List.mem_append.mp mem with mem | mem
      · exact inLine d mem
      · rw [List.mem_singleton.mp mem]
        decide
    rw [if_neg (by decide), List.append_nil, parse_last (fuel + 2) (by simp) ends, line, same]
    rfl
  | true =>
    refine ⟨parseBool ['\x00'] (assigned a o options),
      fun key named => parseBool_nulls (by simp) named, fun fuel => ?_⟩
    rw [if_pos rfl, List.append_assoc, List.singleton_append,
      parse_step (fuel + 2) inLine (by decide), parse_line ['\x00'] found ready]
    exact parse_end fuel

end Line

section Lines

variable {past as bs : List Assignment} {options : Options} {key : List Char}

/-- Every option has the type of the first value its key was given, and holds a value of it. -/
structure Typed (past : List Assignment) (options : Options) : Prop where
  type : ∀ key ≠ [], (options key).map (·.type) = kind key past
  tagged : ∀ key ≠ [], ∀ o ∈ options key, Tagged o

/-- What these assignments leave of an option. -/
def latest (past as : List Assignment) (options : Options) (key : List Char) : Option ConfOption :=
  match lastValue key as with
  | some text => (kind key (past ++ as)).map (fun type => ⟨type, readValue type text⟩)
  | none => options key

theorem Typed.congr {options' : Options} (typed : Typed past options)
    (same : ∀ key ≠ [], options' key = options key) : Typed past options' where
  type key named := by rw [same key named]; exact typed.type key named
  tagged key named := by rw [same key named]; exact typed.tagged key named

theorem latest_append (past as bs : List Assignment) (options options' : Options)
    (before : options' key = latest past as options key) :
    latest (past ++ as) bs options' key = latest past (as ++ bs) options key := by
  have last : lastValue key (as ++ bs) = (lastValue key bs).or (lastValue key as) := by
    unfold lastValue
    rw [valuesOf_append, List.getLast?_append]
  unfold latest at before ⊢
  rw [last, List.append_assoc]
  cases behind : lastValue key bs with
  | some text => rfl
  | none =>
    rw [before]
    cases front : lastValue key as with
    | none => rfl
    | some text =>
      have empty : kind key bs = none := by
        unfold kind
        rw [List.getLast?_eq_none_iff.mp behind]
        rfl
      have known : kind key (past ++ (as ++ bs)) = kind key (past ++ as) := by
        rw [← List.append_assoc, kind_append, empty, Option.or_none]
      rw [known]
      rfl

variable {a : Assignment}

theorem assigned_self {o : ConfOption} :
    assigned a o options a.key = some ⟨o.type, readValue o.type a.value⟩ :=
  Function.update_self ..

theorem assigned_of_ne {o : ConfOption} (other : key ≠ a.key) :
    assigned a o options key = options key :=
  Function.update_of_ne other ..

/-- The next assignment finds its option, of the type that it has from then on. -/
theorem typed_next (typed : Typed past options)
    (digits : kind a.key (past ++ [a]) = some .int → (intValue a.value).isSome) :
    ∃ o, (options a.key).getD ⟨rawType a.value, .unset⟩ = o ∧ Ready o a.value ∧
      kind a.key (past ++ [a]) = some o.type := by
  refine ⟨_, rfl, ?_⟩
  have same := typed.type a.key a.named.nonempty
  have single : kind a.key [a] = some (rawType a.value) := by
    unfold kind
    rw [valuesOf_single]
    rfl
  rw [kind_append, single, ← same] at digits ⊢
  cases option : options a.key with
  | none =>
    rw [option] at digits
    refine ⟨?_, rfl⟩
    cases type : rawType a.value with
    | int => exact .inl ⟨rfl, digits (by rw [← type]; rfl)⟩
    | str => exact .inr ⟨rfl, .inl rfl⟩
    | bool => exact absurd type (rawType_ne_bool _)
  | some o =>
    rw [option] at digits
    refine ⟨?_, rfl⟩
    rcases typed.tagged a.key a.named.nonempty o option with ⟨type, _⟩ | ⟨type, text, old⟩
    · exact .inl ⟨type, digits (congrArg some type)⟩
    · exact .inr ⟨type, .inr ⟨text, old⟩⟩

theorem typed_assigned {o : ConfOption} (typed : Typed past options) (ready : Ready o a.value)
    (known : kind a.key (past ++ [a]) = some o.type) :
    Typed (past ++ [a]) (assigned a o options) where
  type key named := by
    by_cases same : key = a.key
    · subst same
      rw [assigned_self, known]
      rfl
    · have other : kind key [a] = none := by
        unfold kind
        rw [valuesOf_other (Ne.symm same)]
        rfl
      rw [assigned_of_ne same, kind_append, other, Option.or_none]
      exact typed.type key named
  tagged key named p mem := by
    by_cases same : key = a.key
    · subst same
      rw [assigned_self] at mem
      obtain rfl := Option.some.inj mem
      rcases ready with ⟨type, _⟩ | ⟨type, _⟩
      · exact .inl ⟨type, _, by rw [type]; rfl⟩
      · exact .inr ⟨type, _, by rw [type]; rfl⟩
    · rw [assigned_of_ne same] at mem
      exact typed.tagged key named p mem

theorem latest_single {o : ConfOption} (known : kind a.key (past ++ [a]) = some o.type) :
    assigned a o options key = latest past [a] options key := by
  unfold latest lastValue
  by_cases same : key = a.key
  · subst same
    rw [assigned_self, valuesOf_single, List.getLast?_singleton]
    dsimp only
    rw [known]
    rfl
  · rw [assigned_of_ne same, valuesOf_other (Ne.symm same)]
    rfl

/-- Every value can be read as what its option is, in its own line. -/
def Readable (past as : List Assignment) : Prop :=
  ∀ a ∈ as, '\r' ∉ a.value ∧ (kind a.key (past ++ as) = some .int → (intValue a.value).isSome)

theorem parse_finished (typed : Typed past options) (readable : Readable past as) :
    ∃ k ≤ (as.map (fun a => a.text ++ ['\n'])).flatten.length, ∃ options' : Options,
      Typed (past ++ as) options' ∧ (∀ key ≠ [], options' key = latest past as options key) ∧
      ∀ fuel rest, parseLines (fuel + k) ((as.map (fun a => a.text ++ ['\n'])).flatten ++ rest) options =
        parseLines fuel rest options' := by
  induction as generalizing past options with
  | nil =>
    refine ⟨0, Nat.le_refl 0, options, ?_, fun key _ => rfl, fun fuel rest => rfl⟩
    rw [List.append_nil]
    exact typed
  | cons a as ih =>
    obtain ⟨oneLine, digits⟩ := readable a List.mem_cons_self
    have split : past ++ a :: as = past ++ [a] ++ as := by rw [List.append_assoc]; rfl
    have now : kind a.key (past ++ [a]) = some .int → (intValue a.value).isSome := by
      intro int
      exact digits (split ▸ kind_kept int)
    obtain ⟨o, found, ready, known⟩ := typed_next typed now
    obtain ⟨k, short, options₁, same, step⟩ := parse_text oneLine found ready
    have typed₁ := (typed_assigned typed ready known).congr same
    have later : Readable (past ++ [a]) as := by
      intro b mem
      rw [← split]
      exact readable b (List.mem_cons_of_mem a mem)
    obtain ⟨k', short', options₂, typed₂, same₂, run⟩ := ih typed₁ later
    refine ⟨k' + k, ?_, options₂, split ▸ typed₂, fun key named => ?_, fun fuel rest => ?_⟩
    · rw [List.map_cons, List.flatten_cons, List.length_append]
      omega
    · have first : options₁ key = latest past [a] options key := by
        rw [same key named, latest_single known]
      rw [same₂ key named, latest_append past [a] as options options₁ first]
      rfl
    · rw [List.map_cons, List.flatten_cons, List.append_assoc, ← Nat.add_assoc, step, run]

variable {v : ConfVersion}

/-- The whole buffer is read, line after line. -/
theorem parse_kept (typed : Typed past options) (readable : Readable past v.assignments)
    (uncut : ∀ a ∈ v.unfinished, a.crlf = false →
      kind a.key (past ++ v.assignments) = some .str → closesQuote a.value = false) :
    ∃ options' : Options, Typed (past ++ v.assignments) options' ∧
      (∀ key ≠ [], options' key = latest past v.assignments options key) ∧
      parseLines ((v.kept.flatten ++ ['\x00']).length + 1) (v.kept.flatten ++ ['\x00']) options
        = some options' := by
  have front : Readable past v.finished := by
    intro a mem
    obtain ⟨oneLine, digits⟩ := readable a (List.mem_append_left _ mem)
    refine ⟨oneLine, fun int => digits ?_⟩
    rw [ConfVersion.assignments, ← List.append_assoc]
    exact kind_kept int
  obtain ⟨k, short, options₁, typed₁, same₁, run⟩ := parse_finished typed front
  unfold ConfVersion.kept ConfVersion.assignments at *
  cases last : v.unfinished with
  | none =>
    refine ⟨parseBool ['\x00'] options₁, ?_, fun key named => ?_, ?_⟩
    · rw [Option.toList_none, List.append_nil]
      exact typed₁.congr (fun key named => parseBool_nulls (by simp) named)
    · rw [Option.toList_none, List.append_nil, parseBool_nulls (by simp) named]
      exact same₁ key named
    · rw [Option.toList_none, List.map_nil, List.append_nil]
      obtain ⟨fuel, split⟩ := Nat.exists_eq_add_of_le short
      have enough : ((v.finished.map (fun a => a.text ++ ['\n'])).flatten ++ ['\x00']).length + 1
          = fuel + 2 + k := by
        rw [List.length_append, split, List.length_singleton]
        omega
      rw [enough, run, parse_end]
  | some a =>
    rw [last, Option.toList_some] at readable uncut
    rw [Option.toList_some]
    obtain ⟨oneLine, digits⟩ := readable a (by simp)
    have whole : past ++ (v.finished ++ [a]) = past ++ v.finished ++ [a] :=
      (List.append_assoc ..).symm
    obtain ⟨o, found, ready, known⟩ := typed_next typed₁ (fun int => digits (by rw [whole]; exact int))
    obtain ⟨options₂, same₂, final⟩ := parse_tail oneLine found ready (fun crlf type =>
      uncut a rfl crlf (by rw [whole, known, type]))
    refine ⟨options₂, ?_, fun key named => ?_, ?_⟩
    · rw [whole]
      exact (typed_assigned typed₁ ready known).congr same₂
    · rw [same₂ key named, latest_single known]
      exact latest_append past v.finished [a] options options₁ (same₁ key named)
    · rw [List.map_singleton, List.flatten_append, List.flatten_singleton, List.append_assoc]
      obtain ⟨fuel, split⟩ := Nat.exists_eq_add_of_le short
      have chars : 0 < a.text.length := List.length_pos_iff.mpr (text_nonempty a)
      have enough : ((v.finished.map (fun a => a.text ++ ['\n'])).flatten ++
          (a.text ++ ['\x00'])).length + 1 = fuel + (a.text.length - 1) + 3 + k := by
        rw [List.length_append, split, List.length_append, List.length_singleton]
        omega
      rw [enough, run, final]

end Lines

end GlusterBlock.DynConfig
