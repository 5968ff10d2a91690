import GlusterBlock.CommandExit

/-! The options of `create` that take a number. The filter in front of the conversion passes
a sign and an empty text, and the conversion keeps the low half of a long number. -/
namespace GlusterBlock

section Pairs

def CreateOption.word : CreateOption → String
  | .ha => "ha"
  | .auth => "auth"
  | .prealloc => "prealloc"
  | .storage => "storage"
  | .rbSize => "ring-buffer"
  | .blkSize => "block-size"
  | .ioTimeout => "io-timeout"

theorem parse_word (opt : CreateOption) :
    glusterBlockCLICreateOptEnumParse opt.word = some opt := by
  cases opt <;> rfl

theorem word_of_parse {key : String} {opt : CreateOption}
    (parsed : glusterBlockCLICreateOptEnumParse key = some opt) : key = opt.word := by
  unfold glusterBlockCLICreateOptEnumParse at parsed
  split at parsed <;> cases parsed <;> rfl

variable {v : CreateVars} {pairs : List (String × String)} {rest : List String}

/-- The loop takes the options in front of one or two last arguments. -/
theorem createOptions_pairs (some_left : rest ≠ []) (short : rest.length ≤ 2) :
    createOptions v (pairArgs pairs ++ rest) = (takeOptions v pairs).map (fun v => (v, rest)) := by
  have ends : ∀ v, createOptions v rest = .ok (v, rest) := by
    intro v
    match rest, some_left, short with
    | [_], _, _ => rfl
    | [_, _], _, _ => rfl
  rw [createOptions_front some_left]
  cases takeOptions v pairs with
  | error r => rfl
  | ok u => exact ends u

/-- A command line of options and one or two last arguments. -/
theorem create_pairs (strtod : List Char → Int × List Char) (command volumeblock : String)
    (json : JsonResponseFormat) (some_left : rest ≠ []) (short : rest.length ≤ 2) :
    glusterBlockCreate strtod (command :: volumeblock :: (pairArgs pairs ++ rest)) json =
      match glusterBlockParseVolumeBlock volumeblock with
      | none => .error (-1)
      | some (volume, block) =>
        match takeOptions (createVars volume block json) pairs with
        | .error ret => .error ret
        | .ok v => createOperands strtod v rest := by
  unfold glusterBlockCreate
  dsimp only
  cases glusterBlockParseVolumeBlock volumeblock with
  | none => rfl
  | some names =>
    dsimp only
    rw [createOptions_pairs some_left short]
    cases takeOptions (createVars names.1 names.2 json) pairs <;> rfl

end Pairs

section Numbers

inductive NumberOption where
  | ha | rbSize | blkSize | ioTimeout
  deriving DecidableEq, Repr

def NumberOption.option : NumberOption → CreateOption
  | .ha => .ha
  | .rbSize => .rbSize
  | .blkSize => .blkSize
  | .ioTimeout => .ioTimeout

/-- The field of the request. -/
def NumberOption.stored (obj : BlockCreateCli) : NumberOption → Nat
  | .ha => obj.mpath
  | .rbSize => obj.rbSize
  | .blkSize => obj.blkSize
  | .ioTimeout => obj.ioTimeout

def NumberOption.store (obj : BlockCreateCli) (n : Nat) : NumberOption → BlockCreateCli
  | .ha => { obj with mpath := n }
  | .rbSize => { obj with rbSize := n }
  | .blkSize => { obj with blkSize := n }
  | .ioTimeout => { obj with ioTimeout := n }

/-- The range in the documentation. -/
def NumberOption.Documented (n : Nat) : NumberOption → Prop
  | .ha => 1 ≤ n
  | .rbSize => 1 ≤ n ∧ n ≤ 1024
  | .blkSize => n % 512 = 0
  | .ioTimeout => 1 ≤ n

instance (opt : NumberOption) (n : Nat) : Decidable (opt.Documented n) := by
  cases opt <;> unfold NumberOption.Documented <;> infer_instance

/-- A decimal numeral and the number it denotes. -/
def Numeral (s : String) : Prop := s ≠ "" ∧ s.toList.all Char.isDigit = true

instance (s : String) : Decidable (Numeral s) := inferInstanceAs (Decidable (_ ∧ _))

def numeralValue (s : String) : Nat := Nat.ofDigitChars 10 s.toList 0

/-- Options in front of and behind one that is the last of its name, and what follows. -/
structure NumberArgs (opt : NumberOption) where
  before : List (String × String)
  later : List (String × String)
  last : ∀ p ∈ later, p.1 ≠ opt.option.word
  operands : List String
  some_operand : operands ≠ []
  few : operands.length ≤ 2

def NumberArgs.options {opt : NumberOption} (args : NumberArgs opt) (volumeblock s : String) :
    List String :=
  "create" :: volumeblock ::
    (pairArgs (args.before ++ (opt.option.word, s) :: args.later) ++ args.operands)

/-- A request with the option is one for the number of the text, in its range. -/
def NumberStored (strtod : List Char → Int × List Char) (opt : NumberOption) (s : String) : Prop :=
  ∀ (args : NumberArgs opt) (volumeblock : String) (json : JsonResponseFormat) (req : CliRequest),
    glusterBlockCreate strtod (args.options volumeblock s) json = .ok req →
      Numeral s ∧ ∃ obj, req = .create obj ∧ opt.stored obj = numeralValue s ∧
        opt.Documented (opt.stored obj)

/-- The text is refused, or it is a numeral of 32 bits. -/
def NumberRead (opt : NumberOption) (s : String) : Prop :=
  isNumber s = false ∨ (s ≠ "" ∧ s ≠ "-" ∧ ¬ opt.Documented (scanU s 0)) ∨
    (Numeral s ∧ numeralValue s < 2 ^ 32)

variable {strtod : List Char → Int × List Char} {opt : NumberOption} {s : String}
  {v v' : CreateVars}

/-- What every such option does with its value. -/
theorem createOption_number (opt : NumberOption) (v : CreateVars) (s : String) :
    createOption v opt.option.word s =
      if isNumber s = true ∧ opt.Documented (scanU s (opt.stored v.obj)) then
        .ok { v with obj := opt.store v.obj (scanU s (opt.stored v.obj)) }
      else .error v.ret := by
  unfold createOption
  rw [parse_word]
  cases isNumber s with
  | false => cases opt <;> simp [NumberOption.option]
  | true =>
    cases opt with
    | ha => simp [NumberOption.option, NumberOption.Documented, NumberOption.stored,
        NumberOption.store, Nat.one_le_iff_ne_zero]
    | rbSize =>
      simp [NumberOption.option, NumberOption.Documented, NumberOption.stored, NumberOption.store]
      split <;> split <;> first | rfl | omega
    | blkSize => simp [NumberOption.option, NumberOption.Documented, NumberOption.stored,
        NumberOption.store]
    | ioTimeout =>
      simp [NumberOption.option, NumberOption.Documented, NumberOption.stored, NumberOption.store]
      split <;> split <;> first | rfl | omega

theorem stored_store (opt : NumberOption) (obj : BlockCreateCli) (n : Nat) :
    opt.stored (opt.store obj n) = n := by
  cases opt <;> rfl

/-- The number is left alone by the options of other names. -/
theorem createOption_other {key value : String} (other : key ≠ opt.option.word)
    (taken : createOption v key value = .ok v') : opt.stored v'.obj = opt.stored v.obj := by
  unfold createOption at taken
  cases parsed : glusterBlockCLICreateOptEnumParse key with
  | none =>
    rw [parsed] at taken
    cases taken
  | some o =>
    have differs : o ≠ opt.option := by
      rintro rfl
      exact other (word_of_parse parsed)
    rw [parsed] at taken
    cases o with
    | storage =>
      cases taken
      cases opt <;> rfl
    | _ =>
      dsimp only at taken
      split at taken
      · cases taken <;> cases opt <;> rfl
      · cases taken <;> cases opt <;> first | rfl | exact absurd rfl differs

theorem takeOptions_other {pairs : List (String × String)}
    (others : ∀ p ∈ pairs, p.1 ≠ opt.option.word) (taken : takeOptions v pairs = .ok v') :
    opt.stored v'.obj = opt.stored v.obj := by
  induction pairs generalizing v with
  | nil =>
    cases taken
    rfl
  | cons p pairs ih =>
    rw [takeOptions_cons] at taken
    cases first : createOption v p.1 p.2 with
    | error r =>
      rw [first] at taken
      cases taken
    | ok u =>
      rw [first] at taken
      rw [ih (fun q mem => others q (List.mem_cons_of_mem p mem)) taken]
      exact createOption_other (others p List.mem_cons_self) first

theorem takeOptions_append (v : CreateVars) (front back : List (String × String)) :
    takeOptions v (front ++ back) =
      match takeOptions v front with
      | .ok v => takeOptions v back
      | .error ret => .error ret := by
  unfold takeOptions
  rw [List.foldlM_append]
  cases List.foldlM (fun v p => createOption v p.1 p.2) v front <;> rfl

/-- What follows the options leaves the numbers as they are. -/
theorem createOperands_number {rest : List String} {req : CliRequest}
    (accepted : createOperands strtod v rest = .ok req) :
    ∃ obj, req = .create obj ∧ ∀ opt : NumberOption, opt.stored obj = opt.stored v.obj := by
  have target : ∀ {hosts : String} {size : Option String},
      createTarget strtod v hosts size = .ok req →
        ∃ obj, req = .create obj ∧ ∀ opt : NumberOption, opt.stored obj = opt.stored v.obj := by
    intro hosts size accepted
    unfold createTarget at accepted
    dsimp only at accepted
    split at accepted
    · cases accepted
    · split at accepted
      · cases accepted
        exact ⟨_, rfl, fun opt => by cases opt <;> rfl⟩
      · split at accepted
        · cases accepted
        · cases accepted
          exact ⟨_, rfl, fun opt => by cases opt <;> rfl⟩
  unfold createOperands at accepted
  split at accepted
  · split at accepted
    · exact target accepted
    · cases accepted
  · split at accepted
    · cases accepted
    · split at accepted
      · exact target accepted
      · cases accepted

/-- An accepted command line stores what the conversion leaves of the text. -/
theorem NumberArgs.accepted (args : NumberArgs opt) {volumeblock : String}
    {json : JsonResponseFormat} {req : CliRequest}
    (h : glusterBlockCreate strtod (args.options volumeblock s) json = .ok req) :
    ∃ old obj, req = .create obj ∧ isNumber s = true ∧ opt.stored obj = scanU s old ∧
      opt.Documented (scanU s old) := by
  unfold NumberArgs.options at h
  rw [create_pairs strtod _ _ _ args.some_operand args.few] at h
  cases names : glusterBlockParseVolumeBlock volumeblock with
  | none =>
    rw [names] at h
    cases h
  | some names' =>
    rw [names] at h
    dsimp only at h
    rw [takeOptions_append] at h
    cases front : takeOptions (createVars names'.1 names'.2 json) args.before with
    | error r =>
      rw [front] at h
      cases h
    | ok u =>
      rw [front] at h
      dsimp only at h
      rw [takeOptions_cons, createOption_number] at h
      dsimp only at h
      by_cases read : isNumber s = true ∧ opt.Documented (scanU s (opt.stored u.obj))
      · rw [if_pos read] at h
        dsimp only at h
        split at h
        · cases h
        · rename_i w back
          obtain ⟨obj, rfl, same⟩ := createOperands_number h
          refine ⟨_, obj, rfl, read.1, ?_, read.2⟩
          rw [same, takeOptions_other args.last back, stored_store]
      · rw [if_neg read] at h
        cases h

section Scan

theorem scanU_digits (some_digit : s ≠ "") (more : s ≠ "-") (old : Nat) :
    scanU s old = scanU s 0 := by
  unfold scanU
  split
  · rename_i empty
    exact absurd (String.toList_inj.mp empty) some_digit
  · rename_i sign
    exact absurd (String.toList_inj.mp sign) more
  · rfl
  · rfl

theorem scanU_lt {old : Nat} (small : old < 2 ^ 32) : scanU s old < 2 ^ 32 := by
  unfold scanU
  split
  · exact small
  · exact small
  · exact Nat.mod_lt _ (by decide)
  · exact Nat.mod_lt _ (by decide)

theorem scanU_numeral (numeral : Numeral s) (small : numeralValue s < 2 ^ 32) (old : Nat) :
    scanU s old = numeralValue s := by
  have digits := List.all_eq_true.mp numeral.2
  unfold scanU
  split
  · rename_i empty
    exact absurd (String.toList_inj.mp empty) numeral.1
  · rename_i sign
    exact absurd (digits '-' (by rw [sign]; decide)) (by decide)
  · rename_i more sign
    exact absurd (digits '-' (by rw [sign]; exact List.mem_cons_self)) (by decide)
  · have fits : numeralValue s ≤ CText.maxSize := by
      unfold CText.maxSize
      omega
    change min (numeralValue s) CText.maxSize % 2 ^ 32 = numeralValue s
    rw [Nat.min_eq_left fits, Nat.mod_eq_of_lt small]

end Scan

/-- Every text that the filter and the range let through is in some accepted command
line. -/
theorem number_reached (strtod : List Char → Int × List Char) (before : List (String × String))
    (front : takeOptions (createVars "vol" "block" .none) before = .ok v)
    (plain : v.preallocOpt = false) (single : v.obj.mpath = 1) (number : isNumber s = true)
    (range : opt.Documented (scanU s (opt.stored v.obj))) :
    ∃ (args : NumberArgs opt) (obj : BlockCreateCli),
      glusterBlockCreate strtod (args.options "vol/block" s) .none = .ok (.create obj) ∧
        opt.stored obj = scanU s (opt.stored v.obj) := by
  let n := scanU s (opt.stored v.obj)
  let obj := opt.store v.obj n
  have hosts : 1 ≤ obj.mpath ∧ obj.mpath < 2 ^ 32 := by
    cases opt with
    | ha => exact ⟨range, scanU_lt (by rw [NumberOption.stored, single]; decide)⟩
    | _ =>
      change 1 ≤ v.obj.mpath ∧ v.obj.mpath < 2 ^ 32
      rw [single]
      decide
  let addrs := joinServers (List.replicate obj.mpath "10.0.0.1")
  have listed : glusterBlockIsAddrListAcceptable obj.mpath addrs = 0 := by
    have some_host : List.replicate obj.mpath "10.0.0.1" ≠ [] := by
      simp
      omega
    have accepted := accepted_join some_host
      (fun h mem => by rw [List.eq_of_mem_replicate mem]; decide) (by simpa using hosts.2)
    rwa [List.length_replicate] at accepted
  let args : NumberArgs opt :=
    { before := before, later := [("storage", "file")],
      last := by cases opt <;> decide
      operands := [addrs], some_operand := List.cons_ne_nil _ _, few := by simp }
  let linked := { obj with storage := CText.copy 255 obj.storage "file" }
  refine ⟨args, { linked with blockHosts := addrs }, ?_, ?_⟩
  · have names : glusterBlockParseVolumeBlock "vol/block" = some ("vol", "block") := by decide
    have taken : takeOptions (createVars "vol" "block" .none)
        (args.before ++ (opt.option.word, s) :: args.later) =
          .ok { v with obj := linked, takeSize := false } := by
      rw [takeOptions_append, front]
      dsimp only
      rw [takeOptions_cons, createOption_number, if_pos ⟨number, range⟩]
      rfl
    unfold NumberArgs.options
    rw [create_pairs strtod _ _ _ args.some_operand args.few, names]
    dsimp only
    rw [taken]
    simp only [createOperands, args, plain, Bool.false_eq_true, if_false, createTarget]
    rw [if_neg (not_not.mpr listed)]
  · cases opt <;> rfl

/-- The number of a request is the one in the text exactly when the text is refused or a
numeral of 32 bits. -/
theorem number_stored_iff : NumberStored strtod opt s ↔ NumberRead opt s := by
  constructor
  · intro stored
    cases number : isNumber s with
    | false => exact .inl number
    | true =>
      have unread : ∀ before v, takeOptions (createVars "vol" "block" .none) before = .ok v →
          v.preallocOpt = false → v.obj.mpath = 1 →
          opt.Documented (scanU s (opt.stored v.obj)) → Numeral s := by
        intro before v front plain single range
        obtain ⟨args, obj, accepted, _⟩ :=
          number_reached strtod before front plain single number range
        exact (stored args _ _ _ accepted).1
      -- without a digit the number of an option in front is kept
      have given : s = "" ∨ s = "-" → Numeral s := by
        intro empty
        have kept : ∀ old, scanU s old = old := by
          rcases empty with rfl | rfl <;> exact fun old => rfl
        cases opt with
        | ha => exact unread [] _ rfl rfl rfl (by rw [kept]; decide)
        | rbSize => exact unread [("ring-buffer", "1")] _ rfl rfl rfl (by rw [kept]; decide)
        | blkSize => exact unread [] _ rfl rfl rfl (by rw [kept]; decide)
        | ioTimeout => exact unread [("io-timeout", "1")] _ rfl rfl rfl (by rw [kept]; decide)
      have some_digit : s ≠ "" := fun empty =>
        absurd (empty ▸ given (.inl empty)) (by decide)
      have more : s ≠ "-" := fun sign => absurd (sign ▸ given (.inr sign)) (by decide)
      by_cases range : opt.Documented (scanU s 0)
      · have range' : opt.Documented
            (scanU s (opt.stored (createVars "vol" "block" .none).obj)) := by
          rwa [scanU_digits some_digit more]
        obtain ⟨args, obj, accepted, value⟩ :=
          number_reached strtod [] rfl rfl rfl number range'
        obtain ⟨numeral, obj', same, stored', _⟩ := stored args _ _ _ accepted
        cases same
        refine .inr (.inr ⟨numeral, ?_⟩)
        rw [← stored', value, scanU_digits some_digit more]
        exact scanU_lt (by decide)
      · exact .inr (.inl ⟨some_digit, more, range⟩)
  · intro read args volumeblock json req accepted
    obtain ⟨old, obj, rfl, number, value, range⟩ := args.accepted accepted
    rcases read with refused | ⟨some_digit, more, outside⟩ | ⟨numeral, small⟩
    · rw [number] at refused
      cases refused
    · rw [scanU_digits some_digit more] at range
      exact absurd range outside
    · rw [scanU_numeral numeral small] at value range
      exact ⟨numeral, obj, rfl, value, by rwa [value]⟩

/-- The command line of a linked file on one host with the option. -/
def linkArgs (opt : NumberOption) : NumberArgs opt where
  before := []
  later := [("storage", "file")]
  last := by cases opt <;> decide
  operands := ["10.0.0.1"]
  some_operand := List.cons_ne_nil _ _
  few := by simp

/-- 2 ^ 32 + 1 makes a ring buffer of one megabyte, and an empty text one of the hosts. -/
theorem long_number_stored :
    (∃ obj, glusterBlockCreate (fun text => (0, text))
        ((linkArgs .rbSize).options "vol/block" "4294967297") .none = .ok (.create obj) ∧
      obj.rbSize = 1 ∧ numeralValue "4294967297" = 4294967297) ∧
    ¬ NumberStored (fun text => (0, text)) .rbSize "4294967297" ∧
    ¬ NumberStored (fun text => (0, text)) .ha "" := by
  refine ⟨⟨_, rfl, by decide, by decide⟩, fun stored => ?_, fun stored => ?_⟩
  · obtain ⟨_, obj, same, value, _⟩ := stored (linkArgs .rbSize) "vol/block" .none _ rfl
    cases same
    exact absurd value (by decide)
  · exact absurd (stored (linkArgs .ha) "vol/block" .none _ rfl).1 (by decide)

end Numbers

end GlusterBlock
