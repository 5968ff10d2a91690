import GlusterBlock.CommandLine

/-! The exit status of a command. The variable that is returned also holds the value of the
last switch and of the check of the hosts, and a rejection behind these returns it. -/
namespace GlusterBlock

section Options

def pairArgs (pairs : List (String × String)) : List String :=
  pairs.flatMap (fun p => [p.1, p.2])

/-- The options are taken one by one. -/
def takeOptions (v : CreateVars) (pairs : List (String × String)) : Except Int CreateVars :=
  pairs.foldlM (fun v p => createOption v p.1 p.2) v

/-- The value of a switch that is stored in the return variable. -/
def switchValue (key value : String) : Option Int :=
  match glusterBlockCLICreateOptEnumParse key with
  | some .auth | some .prealloc => some (convertStringToTrillianParse (some value))
  | _ => none

def lastSwitch (pairs : List (String × String)) : Option Int :=
  (pairs.filterMap (fun p => switchValue p.1 p.2)).getLast?

theorem trillian_values (opt : Option String) : convertStringToTrillianParse opt = 1 ∨
    convertStringToTrillianParse opt = 0 ∨ convertStringToTrillianParse opt = -1 := by
  unfold convertStringToTrillianParse
  cases opt with
  | none => exact .inr (.inr rfl)
  | some opt =>
    dsimp only
    split
    · split
      · exact .inl rfl
      · exact .inr (.inl rfl)
    · exact .inr (.inr rfl)

variable {v v' : CreateVars} {key value : String}

/-- An option that is taken stores its value when it is a switch. -/
theorem createOption_ok (h : createOption v key value = .ok v') :
    v'.ret = (switchValue key value).getD v.ret := by
  unfold createOption at h
  unfold switchValue
  cases opt : glusterBlockCLICreateOptEnumParse key with
  | none =>
    rw [opt] at h
    cases h
  | some opt' =>
    rw [opt] at h
    cases opt' <;> dsimp only at h ⊢ <;> first | (split at h <;> cases h <;> rfl) | (cases h; rfl)

/-- An option that is not taken returns what is stored, or the failure of a switch. -/
theorem createOption_error {r : Int} (h : createOption v key value = .error r) :
    (switchValue key value = none ∧ r = v.ret) ∨ ((switchValue key value).isSome = true ∧ r = -1) := by
  have failed : ∀ {c : Int}, c = convertStringToTrillianParse (some value) → ¬ c ≥ 0 → c = -1 := by
    rintro c rfl negative
    rcases trillian_values (some value) with one | zero | other
    · rw [one] at negative
      exact absurd (by decide) negative
    · rw [zero] at negative
      exact absurd (by decide) negative
    · exact other
  unfold createOption at h
  unfold switchValue
  cases opt : glusterBlockCLICreateOptEnumParse key with
  | none =>
    rw [opt] at h
    cases h
    exact .inl ⟨rfl, rfl⟩
  | some opt' =>
    rw [opt] at h
    cases opt' with
    | auth | prealloc =>
      dsimp only at h
      split at h
      · cases h
      · rename_i negative
        cases h
        exact .inr ⟨rfl, failed rfl negative⟩
    | storage => cases h
    | ha | rbSize | blkSize | ioTimeout =>
      dsimp only at h
      split at h
      · cases h
        exact .inl ⟨rfl, rfl⟩
      · cases h

theorem takeOptions_cons (v : CreateVars) (p : String × String) (pairs : List (String × String)) :
    takeOptions v (p :: pairs) =
      match createOption v p.1 p.2 with
      | .ok v => takeOptions v pairs
      | .error ret => .error ret := by
  unfold takeOptions
  rw [List.foldlM_cons]
  cases createOption v p.1 p.2 <;> rfl

theorem takeOptions_ret {pairs : List (String × String)} (h : takeOptions v pairs = .ok v') :
    v'.ret = (lastSwitch pairs).getD v.ret := by
  induction pairs generalizing v with
  | nil =>
    cases h
    rfl
  | cons p pairs ih =>
    rw [takeOptions_cons] at h
    cases first : createOption v p.1 p.2 with
    | error r =>
      rw [first] at h
      cases h
    | ok u =>
      rw [first] at h
      rw [ih h, createOption_ok first]
      unfold lastSwitch
      cases switch : switchValue p.1 p.2 with
      | none => simp [switch]
      | some n =>
        simp [switch, List.getLast?_cons]

/-- The options in front are taken while something is left behind them. -/
theorem createOptions_front {pairs : List (String × String)} {rest : List String}
    (left : rest ≠ []) :
    createOptions v (pairArgs pairs ++ rest) =
      match takeOptions v pairs with
      | .ok v => createOptions v rest
      | .error ret => .error ret := by
  induction pairs generalizing v with
  | nil => rfl
  | cons p pairs ih =>
    have some_left : pairArgs pairs ++ rest ≠ [] := by simp [left]
    obtain ⟨next, more, shape⟩ := List.exists_cons_of_ne_nil some_left
    change createOptions v (p.1 :: p.2 :: (pairArgs pairs ++ rest)) = _
    rw [takeOptions_cons, shape, createOptions]
    cases createOption v p.1 p.2 with
    | error r => rfl
    | ok u =>
      dsimp only
      rw [← shape, ih]

theorem createOptions_taken {pairs : List (String × String)} {rest : List String}
    (taken : takeOptions v pairs = .ok v') (left : rest ≠ []) :
    createOptions v (pairArgs pairs ++ rest) = createOptions v' rest := by
  rw [createOptions_front left, taken]

/-- Either all options are taken, or the loop ends at one that is not. -/
theorem createOptions_cases (v : CreateVars) (args : List String) :
    (∃ pairs rest v', args = pairArgs pairs ++ rest ∧ rest.length ≤ 2 ∧
        (pairs ≠ [] → rest ≠ []) ∧ takeOptions v pairs = .ok v' ∧
        createOptions v args = .ok (v', rest)) ∨
      ∃ pairs key value more v' r, args = pairArgs pairs ++ key :: value :: more ∧ more ≠ [] ∧
        takeOptions v pairs = .ok v' ∧ createOption v' key value = .error r ∧
        createOptions v args = .error r := by
  fun_induction createOptions v args with
  | case1 v key value next rest u taken ih =>
    have more : ∀ pairs, takeOptions v ((key, value) :: pairs) = takeOptions u pairs := by
      intro pairs
      rw [takeOptions_cons, taken]
    rcases ih with ⟨pairs, left, v', args, short, some_left, all, loop⟩ |
      ⟨pairs, k, w, left, v', r, args, behind, front, failed, loop⟩
    · refine .inl ⟨(key, value) :: pairs, left, v', ?_, short, fun _ => ?_, ?_, loop⟩
      · rw [args]
        rfl
      · rintro rfl
        cases pairs with
        | nil => cases args
        | cons p pairs => exact some_left (List.cons_ne_nil p pairs) rfl
      · rw [more, all]
    · refine .inr ⟨(key, value) :: pairs, k, w, left, v', r, ?_, behind, ?_, failed, loop⟩
      · rw [args]
        rfl
      · rw [more, front]
  | case2 v key value next rest r failed =>
    exact .inr ⟨[], key, value, next :: rest, v, r, rfl, List.cons_ne_nil next rest, rfl, failed, rfl⟩
  | case3 v rest short =>
    refine .inl ⟨[], rest, v, rfl, ?_, fun absurd => (absurd rfl).elim, rfl, rfl⟩
    match rest, short with
    | [], _ => simp
    | [_], _ => simp
    | [_, _], _ => simp
    | a :: b :: c :: more, short => exact (short a b c more rfl).elim

end Options

section Create

variable (strtod : List Char → Int × List Char)

/-- The number of arguments behind the options does not fit them. -/
def Miscounted (v : CreateVars) (rest : List String) : Prop :=
  if v.takeSize then rest.length ≠ 2 else v.preallocOpt = true ∨ rest.length ≠ 1

/-- The command line is rejected behind a switch that was turned off, or for its size. -/
inductive CreateSlip (start : CreateVars) (args : List String) : Prop where
  | option (pairs : List (String × String)) (key value : String) (more : List String)
      (v : CreateVars) (r : Int) (split : args = pairArgs pairs ++ key :: value :: more)
      (left : more ≠ []) (taken : takeOptions start pairs = .ok v)
      (off : lastSwitch pairs = some 0) (plain : switchValue key value = none)
      (rejected : createOption v key value = .error r)
  | count (pairs : List (String × String)) (rest : List String) (v : CreateVars)
      (split : args = pairArgs pairs ++ rest) (left : rest ≠ []) (short : rest.length ≤ 2)
      (taken : takeOptions start pairs = .ok v) (off : lastSwitch pairs = some 0)
      (miscounted : Miscounted v rest)
  | size (pairs : List (String × String)) (hosts size : String) (v : CreateVars)
      (split : args = pairArgs pairs ++ [hosts, size])
      (taken : takeOptions start pairs = .ok v) (takes : v.takeSize = true)
      (accepted : glusterBlockIsAddrListAcceptable v.obj.mpath hosts = 0)
      (rejected : glusterBlockParseSize strtod size (BitVec.ofNat 32 v.obj.blkSize).toInt < 0)

variable {strtod}

/-- With the right number of arguments only the size is rejected with 0. -/
theorem createTarget_zero {v : CreateVars} {hosts : String} {size : Option String} :
    createTarget strtod v hosts size = .error 0 ↔
      glusterBlockIsAddrListAcceptable v.obj.mpath hosts = 0 ∧ ∃ text, size = some text ∧
        glusterBlockParseSize strtod text (BitVec.ofNat 32 v.obj.blkSize).toInt < 0 := by
  unfold createTarget
  by_cases accepted : glusterBlockIsAddrListAcceptable v.obj.mpath hosts = 0
  · cases size with
    | none => simp [accepted]
    | some text =>
      simp only [accepted, ne_eq, not_true_eq_false, if_false, Option.some.injEq,
        exists_eq_left', true_and]
      split <;> simp_all
  · simp [accepted]

/-- Behind the options, a rejection returns what is stored unless it is for the hosts. -/
theorem createOperands_zero {v : CreateVars} {rest : List String} :
    createOperands strtod v rest = .error 0 ↔
      (Miscounted v rest ∧ v.ret = 0) ∨
        (¬ Miscounted v rest ∧ v.takeSize = true ∧ ∃ hosts size, rest = [hosts, size] ∧
          glusterBlockIsAddrListAcceptable v.obj.mpath hosts = 0 ∧
          glusterBlockParseSize strtod size (BitVec.ofNat 32 v.obj.blkSize).toInt < 0) := by
  unfold createOperands Miscounted
  cases takes : v.takeSize with
  | true =>
    simp only [if_true]
    split
    · rename_i hosts size
      simp [createTarget_zero]
    · rename_i other
      have count : rest.length ≠ 2 := by
        intro two
        obtain ⟨hosts, size, shape⟩ := List.length_eq_two.mp two
        exact other hosts size shape
      simp [count]
  | false =>
    cases prealloc : v.preallocOpt with
    | true => simp
    | false =>
      simp only [Bool.false_eq_true, if_false, false_or, false_and, and_false, or_false]
      split
      · simp [createTarget_zero]
      · rename_i other
        have count : rest.length ≠ 1 := by
          intro one
          obtain ⟨hosts, shape⟩ := List.length_eq_one_iff.mp one
          exact other hosts shape
        simp [count]

variable {start : CreateVars} {args : List String}

theorem ret_zero (first : start.ret = -1) {pairs : List (String × String)} {v : CreateVars}
    (taken : takeOptions start pairs = .ok v) : v.ret = 0 ↔ lastSwitch pairs = some 0 := by
  rw [takeOptions_ret taken, first]
  cases lastSwitch pairs <;> simp

theorem slip_rejected (first : start.ret = -1) (slip : CreateSlip strtod start args) :
    createOptions start args = .error 0 ∨ ∃ v rest, createOptions start args = .ok (v, rest) ∧
      createOperands strtod v rest = .error 0 := by
  have ends : ∀ {v : CreateVars} {rest : List String}, rest.length ≤ 2 →
      createOptions v rest = .ok (v, rest) := by
    intro v rest short
    match rest, short with
    | [], _ => rfl
    | [_], _ => rfl
    | [_, _], _ => rfl
  cases slip with
  | option pairs key value more v r split left taken off plain rejected =>
    obtain ⟨next, more, rfl⟩ := List.exists_cons_of_ne_nil left
    have zero := (ret_zero first taken).mpr off
    rcases createOption_error rejected with ⟨_, stored⟩ | ⟨switch, _⟩
    · refine .inl ?_
      rw [split, createOptions_taken taken (by simp), createOptions, rejected]
      exact congrArg Except.error (stored.trans zero)
    · rw [plain] at switch
      cases switch
  | count pairs rest v split left short taken off miscounted =>
    refine .inr ⟨v, rest, ?_, createOperands_zero.mpr (.inl ⟨miscounted, ?_⟩)⟩
    · rw [split, createOptions_taken taken left, ends short]
    · exact (ret_zero first taken).mpr off
  | size pairs hosts size v split taken takes accepted rejected =>
    refine .inr ⟨v, [hosts, size], ?_, createOperands_zero.mpr (.inr ?_)⟩
    · rw [split, createOptions_taken taken (by simp), ends (by simp)]
    · exact ⟨by simp [Miscounted, takes], takes, hosts, size, rfl, accepted, rejected⟩

theorem rejected_slip (first : start.ret = -1)
    (rejected : createOptions start args = .error 0 ∨ ∃ v rest,
      createOptions start args = .ok (v, rest) ∧ createOperands strtod v rest = .error 0) :
    CreateSlip strtod start args := by
  rcases createOptions_cases start args with
    ⟨pairs, rest, v, split, short, some_left, taken, loop⟩ |
    ⟨pairs, key, value, more, v, r, split, left, taken, failed, loop⟩
  · rcases rejected with absurd | ⟨v', rest', loop', zero⟩
    · rw [loop] at absurd
      cases absurd
    · cases loop.symm.trans loop'
      rcases createOperands_zero.mp zero with ⟨miscounted, stored⟩ | ⟨_, takes, hosts, size, rfl, ok, bad⟩
      · have off := (ret_zero first taken).mp stored
        have some_pairs : pairs ≠ [] := by
          rintro rfl
          cases off
        exact .count pairs rest v split (some_left some_pairs) short taken off miscounted
      · exact .size pairs hosts size v split taken takes ok bad
  · rcases rejected with zero | ⟨v', rest', absurd, _⟩
    · cases loop.symm.trans zero
      rcases createOption_error failed with ⟨plain, stored⟩ | ⟨_, other⟩
      · exact .option pairs key value more v 0 split left taken
          ((ret_zero first taken).mp stored.symm) plain failed
      · cases other
    · rw [loop] at absurd
      cases absurd

end Create

section Commands

/-- The command lines that are rejected with 0. -/
def CliCommand.Slips (strtod : List Char → Int × List Char) (options : List String)
    (json : JsonResponseFormat) : CliCommand → Prop
  | create => ∃ command volumeblock args volume block, options = command :: volumeblock :: args ∧
      glusterBlockParseVolumeBlock volumeblock = some (volume, block) ∧
      CreateSlip strtod (createVars volume block json) args
  | delete => ∃ command volumeblock value other,
      options = [command, volumeblock, "unlink-storage", value, other] ∧
      (glusterBlockParseVolumeBlock volumeblock).isSome = true ∧
      convertStringToTrillianParse (some value) = 0 ∧ other ≠ "force"
  | _ => False

variable {strtod : List Char → Int × List Char} {options : List String}
  {json : JsonResponseFormat}

theorem create_zero : glusterBlockCreate strtod options json = .error 0 ↔
    CliCommand.create.Slips strtod options json := by
  constructor
  · intro h
    match options, h with
    | command :: volumeblock :: args, h =>
      cases names : glusterBlockParseVolumeBlock volumeblock with
      | none =>
        simp [glusterBlockCreate, names] at h
      | some vb =>
        obtain ⟨volume, block⟩ := vb
        refine ⟨command, volumeblock, args, volume, block, rfl, names, rejected_slip rfl ?_⟩
        simp only [glusterBlockCreate, names] at h
        cases loop : createOptions (createVars volume block json) args with
        | error r =>
          rw [loop] at h
          exact .inl (congrArg Except.error (Except.error.inj h))
        | ok p =>
          rw [loop] at h
          exact .inr ⟨p.1, p.2, rfl, h⟩
  · rintro ⟨command, volumeblock, args, volume, block, rfl, names, slip⟩
    simp only [glusterBlockCreate, names]
    rcases slip_rejected rfl slip with loop | ⟨v, rest, loop, zero⟩
    · rw [loop]
    · rw [loop]
      exact zero

theorem jsonFlag_word (json : JsonResponseFormat) :
    convertStringToTrillianParse (jsonFlag json) = -1 := by
  cases json <;> decide

theorem deleteArgs_error {obj : BlockDeleteCli} {ret r : Int} {args : List String}
    (h : deleteArgs obj ret args = .error r) : r = ret ∧ args ≠ [] ∧ args ≠ ["force"] := by
  unfold deleteArgs at h
  by_cases left : (if args.head? = some "force" then args.tail else args) ≠ []
  · rw [if_pos left] at h
    cases h
    refine ⟨rfl, ?_, ?_⟩
    · rintro rfl
      exact left rfl
    · rintro rfl
      exact left rfl
  · rw [if_neg left] at h
    cases h

theorem delete_zero : glusterBlockDelete options json = .error 0 ↔
    CliCommand.delete.Slips strtod options json := by
  constructor
  · intro h
    match options, h with
    | command :: volumeblock :: args, h =>
      unfold glusterBlockDelete at h
      dsimp only at h
      split at h
      · cases h
      · rename_i short
        cases names : glusterBlockParseVolumeBlock volumeblock with
        | none =>
          rw [names] at h
          cases h
        | some vb =>
          rw [names] at h
          dsimp only at h
          split at h
          · rename_i value more
            split at h
            · obtain ⟨zero, some_left, notForce⟩ := deleteArgs_error h
              match more, some_left, notForce with
              | [other], _, notForce =>
                refine ⟨command, volumeblock, value, other, rfl, by rw [names]; rfl, zero.symm, ?_⟩
                rintro rfl
                exact notForce rfl
              | _ :: _ :: _, _, _ => simp at short
            · rename_i negative
              rw [Except.error.inj h] at negative
              exact absurd (by decide) negative
          · rw [jsonFlag_word] at h
            cases h
          · exact absurd (deleteArgs_error h).1 (by decide)
  · rintro ⟨command, volumeblock, value, other, rfl, names, zero, notForce⟩
    obtain ⟨vb, names⟩ := Option.isSome_iff_exists.mp names
    simp [glusterBlockDelete, names, zero, deleteArgs, notForce]

/-- The other commands are never rejected with 0. -/
theorem others_negative {cmd : CliCommand} (create : cmd ≠ .create) (delete : cmd ≠ .delete)
    {r : Int} (h : cmd.parse strtod options json = .error r) : r < 0 := by
  cases cmd with
  | create => exact absurd rfl create
  | delete => exact absurd rfl delete
  | modify =>
    change glusterBlockModify strtod options json = .error r at h
    unfold glusterBlockModify at h
    repeat' first | split at h | (dsimp only at h; split at h)
    all_goals first | (cases h; decide) | (cases h; assumption) | cases h
  | list | info | replace | reload | genConfig =>
    simp only [CliCommand.parse, glusterBlockList, glusterBlockInfo, glusterBlockReplace,
      glusterBlockReload, glusterBlockGenConfig] at h
    repeat' split at h
    all_goals first | (cases h; decide) | cases h

theorem parse_zero {cmd : CliCommand} :
    cmd.parse strtod options json = .error 0 ↔ cmd.Slips strtod options json := by
  by_cases create : cmd = .create
  · rw [create]
    exact create_zero
  · by_cases delete : cmd = .delete
    · rw [delete]
      exact delete_zero
    · constructor
      · intro h
        exact absurd (others_negative create delete h) (by decide)
      · intro slips
        cases cmd with
        | create => exact absurd rfl create
        | delete => exact absurd rfl delete
        | _ => cases slips

/-- A command returns 0 for a reply with the code 0 and for nothing else, unless its
command line is one of those that are rejected with 0. -/
theorem cli_exit (strtod : List Char → Int × List Char) (options : List String)
    (json : JsonResponseFormat) (daemon : CliRequest → CliCall) (cmd : CliCommand) :
    (cmd.returns strtod options json daemon = 0 ↔ ∃ req out,
      cmd.parse strtod options json = .ok req ∧ daemon req = .answered 0 out) ↔
        ¬ cmd.Slips strtod options json := by
  rw [← parse_zero]
  unfold CliCommand.returns
  cases parsed : cmd.parse strtod options json with
  | error r => simp
  | ok req =>
    refine iff_of_true ?_ (fun absurd => nomatch absurd)
    cases call : daemon req with
    | unsent errMsg => simp [glusterBlockCliRpc, call]
    | lost => simp [glusterBlockCliRpc, call]
    | answered exit out => simp [glusterBlockCliRpc, call]

/-- A word that `delete` does not know, behind a switch that was turned off. -/
theorem unknown_word_succeeds : ¬ (CliCommand.delete.returns (fun text => (0, text))
    ["delete", "vol/block", "unlink-storage", "no", "now"] .none (fun _ => .lost) = 0 ↔
      ∃ req out, CliCommand.delete.parse (fun text => (0, text))
          ["delete", "vol/block", "unlink-storage", "no", "now"] .none = .ok req ∧
        CliCall.lost = .answered 0 out) := by
  intro same
  obtain ⟨_, _, _, absurd⟩ := same.mp (by decide)
  cases absurd

end Commands

end GlusterBlock
