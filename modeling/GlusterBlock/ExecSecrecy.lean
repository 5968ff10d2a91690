import GlusterBlock.ExecCommand

/-! What the log of the daemon shows of two runs that differ only in the password. A script
that cannot be run is written as it is; an output is masked when it is written as a whole,
but not when one of the messages is missing in it. -/
namespace GlusterBlock

open Search

section Output

/-- A line of an output, with the texts around the echoes of the password in it. -/
structure OutLine where
  front : Text
  echoes : List Text
  plain : ∀ t ∈ front :: echoes, '\n' ∉ t ∧ '\x00' ∉ t ∧ ¬ echoMark <:+: t

def OutLine.text (p : Text) (l : OutLine) : Text :=
  l.front ++ l.echoes.flatMap (fun back => echo p ++ back)

def outText (p : Text) (lines : List OutLine) : Text := linesOf (lines.map (OutLine.text p))

/-- The mask hides a line: at most one echo, which is what it finds. -/
def OutLine.Hidden (l : OutLine) : Prop :=
  match l.echoes with
  | [] => Readable l.front
  | [back] => Alone l.front back
  | _ => False

variable {p q : String} {l : OutLine} {lines : List OutLine}

theorem echo_length (hp : isUuid p = true) (hq : isUuid q = true) :
    (echo p.toList).length = (echo q.toList).length := by
  simp only [echo, List.length_append, uuid_length hp, uuid_length hq]

theorem outLine_length (hp : isUuid p = true) (hq : isUuid q = true) :
    (l.text p.toList).length = (l.text q.toList).length := by
  have backs : ∀ bs : List Text, (bs.flatMap (fun back => echo p.toList ++ back)).length =
      (bs.flatMap (fun back => echo q.toList ++ back)).length := by
    intro bs
    induction bs with
    | nil => rfl
    | cons b bs ih =>
      simp only [List.flatMap_cons, List.length_append, ih, echo_length hp hq]
  unfold OutLine.text
  rw [List.length_append, List.length_append, backs]

theorem outLine_inLine (hp : isUuid p = true) : '\n' ∉ l.text p.toList := by
  unfold OutLine.text
  simp only [List.mem_append, List.mem_flatMap, not_or, not_exists, not_and]
  refine ⟨(l.plain _ List.mem_cons_self).1, fun back mem => ⟨?_, ?_⟩⟩
  · simp only [echo, List.mem_append, not_or]
    exact ⟨by decide, uuid_not_mem hp (by decide) (by decide), by decide⟩
  · exact (l.plain back (List.mem_cons_of_mem _ mem)).1

/-- A line shows the same for both passwords exactly when they are hidden in it. -/
theorem outLine_hidden (hp : isUuid p = true) (hq : isUuid q = true) (other : p ≠ q) :
    (∃ r, clipLine (l.text p.toList) = some r ∧ clipLine (l.text q.toList) = some r) ↔
      l.Hidden := by
  obtain ⟨front, echoes, plain⟩ := l
  unfold OutLine.Hidden OutLine.text
  cases echoes with
  | nil =>
    dsimp only
    rw [List.flatMap_nil, List.append_nil, ← clipLine_isSome, Option.isSome_iff_exists]
    simp
  | cons b rest =>
    have first (u : String) : front ++ (b :: rest).flatMap (fun back => echo u.toList ++ back) =
        (front ++ "Parameter password is now ".toList) ++ '\'' ::
          (u.toList ++ ('\'' :: b ++ rest.flatMap (fun back => echo u.toList ++ back))) := by
      rw [List.flatMap_cons, List.append_assoc, echo_split]
      simp
    cases rest with
    | nil =>
      dsimp only
      have single (u : String) : front ++ [b].flatMap (fun back => echo u.toList ++ back) =
          front ++ (echo u.toList ++ b) := by simp
      constructor
      · rintro ⟨r, masked, masked'⟩
        have value := secret_hidden hp hq other masked masked' (first p) (first q) rfl
        rw [single] at value
        exact alone_of_value hp (by simpa using value)
      · intro alone
        exact ⟨_, by rw [single]; exact clipLine_echo hp alone, by rw [single]; exact clipLine_echo hq alone⟩
    | cons c rest =>
      refine iff_of_false ?_ id
      rintro ⟨r, masked, masked'⟩
      have second (u : String) :
          front ++ (b :: c :: rest).flatMap (fun back => echo u.toList ++ back) =
            (front ++ (echo u.toList ++ b) ++ "Parameter password is now ".toList) ++ '\'' ::
              (u.toList ++ ('\'' :: c ++ rest.flatMap (fun back => echo u.toList ++ back))) := by
        rw [List.flatMap_cons, List.flatMap_cons, ← List.append_assoc front, List.append_assoc _ c,
          echo_split]
        simp
      have value := secret_hidden hp hq other masked masked' (first p) (first q) rfl
      have value' := secret_hidden hp hq other masked masked' (second p) (second q)
        (by simp [echo_length hp hq])
      have twice := List.append_cancel_left (Option.some.inj (value.symm.trans value'))
      have lengths := congrArg List.length twice
      simp only [List.flatMap_cons, List.length_append, List.length_cons, echo] at lengths
      omega

theorem tokens_out (hp : isUuid p = true) : Fields.tokens '\n' (outText p.toList lines) =
    (lines.map (OutLine.text p.toList)).filter (fun t => t ≠ []) := by
  rw [outText, tokens_lines]
  induction lines with
  | nil => rfl
  | cons l lines ih =>
    rw [List.map_cons, List.flatMap_cons, ih, Fields.tokens_word (outLine_inLine hp), List.filter_cons]
    by_cases empty : l.text p.toList = []
    · simp [empty]
    · simp [empty]

/-- Line by line. -/
theorem rows_hidden (hp : isUuid p = true) (hq : isUuid q = true) (other : p ≠ q) :
    (∃ rs rs', ((lines.map (OutLine.text p.toList)).filter (fun t => t ≠ [])).mapM clipLine = some rs ∧
      ((lines.map (OutLine.text q.toList)).filter (fun t => t ≠ [])).mapM clipLine = some rs' ∧
      rs.flatMap (fun l => '\n' :: l) = rs'.flatMap (fun l => '\n' :: l)) ↔
      ∀ l ∈ lines, l.Hidden := by
  induction lines with
  | nil => simp
  | cons l lines ih =>
    rw [List.forall_mem_cons, ← ih, List.map_cons, List.map_cons, List.filter_cons, List.filter_cons]
    have lengths := outLine_length (l := l) hp hq
    by_cases empty : l.text p.toList = []
    · have empty' : l.text q.toList = [] := List.length_eq_zero_iff.mp (by rw [← lengths, empty]; rfl)
      have hidden : l.Hidden :=
        (outLine_hidden hp hq other).mp ⟨[], by rw [empty]; rfl, by rw [empty']; rfl⟩
      rw [if_neg (by simpa using empty), if_neg (by simpa using empty')]
      exact (and_iff_right hidden).symm
    · have filled : l.text q.toList ≠ [] := fun none =>
        empty (List.length_eq_zero_iff.mp (by rw [lengths, none]; rfl))
      rw [if_pos (by simpa using empty), if_pos (by simpa using filled), List.mapM_cons,
        List.mapM_cons, ← outLine_hidden hp hq other]
      constructor
      · rintro ⟨rs, rs', first, second, same⟩
        obtain ⟨r, head, tail⟩ := Option.bind_eq_some_iff.mp first
        obtain ⟨r', head', tail'⟩ := Option.bind_eq_some_iff.mp second
        obtain ⟨ts, rest, all⟩ := Option.bind_eq_some_iff.mp tail
        obtain ⟨ts', rest', all'⟩ := Option.bind_eq_some_iff.mp tail'
        obtain rfl := Option.some.inj all
        obtain rfl := Option.some.inj all'
        rw [List.flatMap_cons, List.flatMap_cons] at same
        have long : ('\n' :: r).length = ('\n' :: r').length := by
          rw [List.length_cons, List.length_cons, clipLine_length head, clipLine_length head', lengths]
        obtain ⟨here, there⟩ := List.append_inj same long
        obtain rfl := (List.cons.inj here).2
        exact ⟨⟨r, head, head'⟩, ts, ts', rest, rest', there⟩
      · rintro ⟨⟨r, masked, masked'⟩, rs, rs', rest, rest', same⟩
        exact ⟨r :: rs, r :: rs', by rw [masked, rest]; rfl, by rw [masked', rest']; rfl,
          by rw [List.flatMap_cons, List.flatMap_cons, same]⟩

/-- An output without an echo does not depend on the password. -/
theorem outText_silent (silent : ∀ l ∈ lines, l.echoes = []) (p q : Text) :
    outText p lines = outText q lines := by
  unfold outText
  rw [List.map_congr_left (fun l mem => ?_)]
  unfold OutLine.text
  rw [silent l mem]
  rfl

/-- One with an echo gives it away. -/
theorem outText_inj (hp : isUuid p = true) (hq : isUuid q = true) (l : OutLine) (mem : l ∈ lines)
    (echoes : l.echoes ≠ []) (same : outText p.toList lines = outText q.toList lines) : p = q := by
  have line := linesOf_inj (fun l _ => outLine_length hp hq) same l mem
  unfold OutLine.text at line
  cases backs : l.echoes with
  | nil => exact absurd backs echoes
  | cons b rest =>
    rw [backs] at line
    have first := List.append_cancel_left line
    rw [List.flatMap_cons, List.flatMap_cons, List.append_assoc, List.append_assoc] at first
    have secret := (List.append_inj first (echo_length hp hq)).1
    simp only [echo, List.append_cancel_left_eq, List.append_cancel_right_eq] at secret
    exact String.toList_inj.mp secret

/-- The masked output is the same exactly when every line is hidden. -/
theorem outText_hidden (hp : isUuid p = true) (hq : isUuid q = true) (other : p ≠ q) :
    (∃ t, gbClipoffSensitiveDetailsAtExec (outText p.toList lines) = some t ∧
      gbClipoffSensitiveDetailsAtExec (outText q.toList lines) = some t) ↔ ∀ l ∈ lines, l.Hidden := by
  rw [← rows_hidden hp hq other]
  by_cases silent : ∀ l ∈ lines, l.echoes = []
  · rw [← tokens_out hp, ← tokens_out hq, outText_silent silent q.toList p.toList]
    constructor
    · rintro ⟨t, masked, _⟩
      have readable := clip_isSome.mp (Option.isSome_iff_exists.mpr ⟨t, masked⟩)
      have all := mapM_isSome.mpr (fun line mem => clipLine_isSome.mpr (readable line mem))
      obtain ⟨rs, each⟩ := Option.isSome_iff_exists.mp all
      exact ⟨rs, rs, each, each, rfl⟩
    · rintro ⟨rs, _, each, _⟩
      have all := mapM_isSome.mp (Option.isSome_iff_exists.mpr ⟨rs, each⟩)
      have masked := clip_isSome.mpr (fun line mem => clipLine_isSome.mp (all line mem))
      obtain ⟨t, masked⟩ := Option.isSome_iff_exists.mp masked
      exact ⟨t, masked, masked⟩
  · push Not at silent
    obtain ⟨l, mem, echoes⟩ := silent
    have marked (u : String) : passwordEcho <:+: outText u.toList lines := by
      have inside : passwordEcho <:+: l.text u.toList := by
        cases backs : l.echoes with
        | nil => exact absurd backs echoes
        | cons b rest =>
          refine ⟨l.front, " '".toList ++ (u.toList ++ ['\''] ++ b ++
            rest.flatMap (fun back => echo u.toList ++ back)), ?_⟩
          simp only [OutLine.text, backs, List.flatMap_cons, echo, echoMark, List.append_assoc]
      exact inside.trans (line_within (List.mem_map_of_mem mem))
    unfold gbClipoffSensitiveDetailsAtExec
    rw [if_pos (.inr (marked p)), if_pos (.inr (marked q)), tokens_out hp, tokens_out hq]
    constructor
    · rintro ⟨t, first, second⟩
      obtain ⟨rs, each, shown⟩ := Option.map_eq_some_iff.mp first
      obtain ⟨rs', each', shown'⟩ := Option.map_eq_some_iff.mp second
      exact ⟨rs, rs', each, each', shown.trans shown'.symm⟩
    · rintro ⟨rs, rs', each, each', same⟩
      exact ⟨_, by rw [each]; rfl, by rw [each', Option.map_some, ← same]⟩

end Output

section Validate

variable {req : SrvRequest} {p q : String} {lines : List OutLine} {logLevel : Nat}

/-- Every message that is looked for is in the output. -/
def Complete (req : SrvRequest) (out : Text) : Prop := ∀ m ∈ req.messages, m.2 <:+: out

/-- Only the last message depends on the password. -/
theorem messages_repass (auth : req.authMode = true) : ∃ common : List (String × Text), ∀ p,
    (req.repass p).messages =
      common ++ [("password set failed for: ", ("Parameter password is now '" ++ p ++ "'.").toList)] := by
  cases req with
  | create args capable =>
    refine ⟨SrvRequest.createMessages args ++ [("attribute authentication set failed for: ",
        "Parameter authentication is now '1'.".toList),
      ("userid set failed for: ", ("Parameter userid is now '" ++ args.blk.gbid ++ "'.").toList)],
      fun p => ?_⟩
    have shown : (if args.blk.authMode then SrvRequest.loginMessages args.blk.gbid p else []) =
      SrvRequest.loginMessages args.blk.gbid p := if_pos auth
    rw [List.append_assoc]
    exact congrArg (SrvRequest.createMessages args ++ ·) shown
  | modify blk tpgs =>
    refine ⟨[("attribute authentication set failed for: ",
        "Parameter authentication is now '1'.".toList),
      ("userid set failed for: ", ("Parameter userid is now '" ++ blk.gbid ++ "'.").toList)],
      fun p => ?_⟩
    exact if_pos auth

theorem validate_complete {out : Text} (complete : Complete req out) :
    blockValidateCommandOutput logLevel req out = ([], 0) := by
  have none : req.messages.find? (fun m => !decide (m.2 <:+: out)) = none := by
    refine List.find?_eq_none.mpr (fun m mem => ?_)
    simp [complete m mem]
  unfold blockValidateCommandOutput
  rw [none]

/-- What is said when a message is missing. -/
def refusal (logLevel : Nat) (req : SrvRequest) (out : Text) (label : String) : List LogLine :=
  log logLevel gbLogError (label.toList ++ req.volBlk) ++
    log logLevel gbLogError ("Error from targetcli:\n".toList ++ out ++ ['\n'])

theorem validate_incomplete {out : Text} (incomplete : ¬ Complete req out) : ∃ m,
    req.messages.find? (fun m => !decide (m.2 <:+: out)) = some m ∧
      blockValidateCommandOutput logLevel req out = (refusal logLevel req out m.1, -1) := by
  cases found : req.messages.find? (fun m => !decide (m.2 <:+: out)) with
  | none =>
    refine absurd (fun m mem => ?_) incomplete
    have there := List.find?_eq_none.mp found m mem
    simpa using there
  | some m =>
    refine ⟨m, rfl, ?_⟩
    unfold blockValidateCommandOutput
    rw [found]
    rfl

theorem echoMark_text (p : String) :
    echoMark <:+: ("Parameter password is now '" ++ p ++ "'.").toList := by
  refine ⟨[], p.toList ++ "'.".toList, ?_⟩
  simp only [String.toList_append, List.append_assoc, List.nil_append]
  rfl

theorem volBlk_repass (p : String) : (req.repass p).volBlk = req.volBlk := by
  cases req <;> rfl

/-- Without an echo the password is not found in the output, so what is missing is said of
both runs in the same words. -/
theorem validate_silent (auth : req.authMode = true) (silent : ∀ l ∈ lines, l.echoes = []) :
    blockValidateCommandOutput logLevel (req.repass p) (outText p.toList lines) =
      blockValidateCommandOutput logLevel (req.repass q) (outText q.toList lines) := by
  have unmarked : ∀ ls : List OutLine, (∀ l ∈ ls, l.echoes = []) →
      ¬ echoMark <:+: outText p.toList ls := by
    intro ls
    induction ls with
    | nil => exact fun _ occurs => absurd (List.infix_nil.mp occurs) (by decide)
    | cons l ls ih =>
      intro silent
      have alone : l.text p.toList = l.front := by
        unfold OutLine.text
        rw [silent l List.mem_cons_self]
        simp
      have free := (l.plain _ List.mem_cons_self).2.2
      by_cases last : ls = []
      · subst last
        simpa [outText, linesOf, alone] using free
      · have later := ih (fun k mem => silent k (List.mem_cons_of_mem l mem))
        unfold outText at later ⊢
        rw [List.map_cons, linesOf_cons (by simpa using last), alone,
          infix_apart (by decide) (by decide), not_or]
        exact ⟨free, later⟩
  have missing (u : String) : ¬ ("Parameter password is now '" ++ u ++ "'.").toList <:+:
      outText p.toList lines :=
    fun occurs => unmarked lines silent ((echoMark_text u).trans occurs)
  obtain ⟨common, all⟩ := messages_repass auth
  rw [outText_silent silent q.toList p.toList]
  have last (u : String) : [("password set failed for: ",
      ("Parameter password is now '" ++ u ++ "'.").toList)].find?
        (fun m => !decide (m.2 <:+: outText p.toList lines)) = some _ :=
    List.find?_cons_of_pos (by rw [decide_eq_false (missing u)]; rfl)
  unfold blockValidateCommandOutput
  rw [all p, all q, List.find?_append, List.find?_append, volBlk_repass, volBlk_repass, last p, last q]
  cases common.find? (fun m => !decide (m.2 <:+: outText p.toList lines)) <;> rfl

end Validate

section Runs

variable {req : SrvRequest} {sr : SrvReply} {p q : String} {logLevel : Nat}

/-- What comes of a run, with the places of the password in it. -/
inductive Execution where
  | failed (errno : Text)
  | unreadable (errno : Text)
  | ran (lines : List OutLine)

def Execution.popen (p : String) : Execution → Popen
  | .failed errno => .failed errno
  | .unreadable errno => .unreadable errno
  | .ran lines => .output (outText p.toList lines)

/-- The log of the run with this password. -/
def daemonLog (logLevel : Nat) (req : SrvRequest) (sr : SrvReply) (exec : Execution) (p : String) :
    Option (List LogLine) :=
  gbCmdExecAndValidate logLevel (req.repass p) sr (exec.popen p)

/-- A script without a login does not have the password. -/
def Loginless (req : SrvRequest) : Prop := ∃ blk, req = .modify blk 0

/-- What is written depends on no password: what goes to the log unmasked has none in it,
and what is masked is hidden. -/
def Quiet (logLevel : Nat) (req : SrvRequest) (sr : SrvReply) (exec : Execution) (p q : String) :
    Prop :=
  (gbLogDebug ≤ logLevel → Masks (req.repass p).command) ∧
  match exec with
  | .unreadable _ => gbLogError ≤ logLevel → Loginless req
  | .failed _ =>
    (gbLogError ≤ logLevel → Loginless req) ∧ (gbLogDebug ≤ logLevel → Masks sr.out)
  | .ran lines =>
    (outText p.toList lines).length < outMax ∧
    (gbLogError ≤ logLevel → (∀ l ∈ lines, l.echoes = []) ∨
      Complete (req.repass p) (outText p.toList lines) ∧
        Complete (req.repass q) (outText q.toList lines)) ∧
    (gbLogDebug ≤ logLevel → ∀ l ∈ lines, l.Hidden)

theorem debugLine_iff {label : String} {s t : Text} :
    (∃ c, debugLine logLevel label s = some c ∧ debugLine logLevel label t = some c) ↔
      (gbLogDebug ≤ logLevel → ∃ u, gbClipoffSensitiveDetailsAtExec s = some u ∧
        gbClipoffSensitiveDetailsAtExec t = some u) := by
  unfold debugLine
  by_cases debug : gbLogDebug ≤ logLevel
  · rw [if_pos debug, if_pos debug, forall_prop_of_true debug]
    constructor
    · rintro ⟨c, first, second⟩
      obtain ⟨u, masked, rfl⟩ := Option.map_eq_some_iff.mp first
      obtain ⟨u', masked', same⟩ := Option.map_eq_some_iff.mp second
      simp only [List.cons.injEq, Prod.mk.injEq, List.append_cancel_left_eq, and_true, true_and] at same
      exact ⟨u, masked, same ▸ masked'⟩
    · rintro ⟨u, masked, masked'⟩
      exact ⟨_, by rw [masked]; rfl, by rw [masked']; rfl⟩
  · rw [if_neg debug, if_neg debug]
    exact iff_of_true ⟨[], rfl, rfl⟩ (fun there => absurd there debug)

theorem debugLine_isSome {label : String} {s : Text} :
    (∃ c, debugLine logLevel label s = some c) ↔ (gbLogDebug ≤ logLevel → Masks s) := by
  have both := @debugLine_iff logLevel label s s
  simp only [and_self] at both
  rw [both]
  simp only [← clip_isSome, Option.isSome_iff_exists]

theorem command_same (auth : req.authMode = true) (hg : isUuid req.gbid = true)
    (hp : isUuid p = true) (hq : isUuid q = true) (label : String) :
    debugLine logLevel label (req.repass q).command =
      debugLine logLevel label (req.repass p).command := by
  rcases command_login auth with ⟨blk, rfl⟩ | ⟨f, has, all⟩
  · rfl
  · unfold debugLine
    rw [all p, all q, hasLogin_clip hg hp hq has]

theorem command_inj (auth : req.authMode = true) (hp : isUuid p = true) (hq : isUuid q = true)
    (other : p ≠ q) : (req.repass p).command = (req.repass q).command ↔ Loginless req := by
  constructor
  · intro same
    refine (command_login auth).resolve_right ?_
    rintro ⟨f, has, all⟩
    rw [all, all] at same
    exact other (hasLogin_inj hp hq has same)
  · rintro ⟨blk, rfl⟩
    rfl

theorem log_inj {level : Nat} {s t : Text} (written : level ≤ logLevel)
    (same : log logLevel level s = log logLevel level t) : s = t := by
  unfold log at same
  rw [if_pos written, if_pos written] at same
  simpa using same

theorem log_length {level : Nat} {s t : Text} :
    (log logLevel level s).length = (log logLevel level t).length := by
  unfold log
  split <;> rfl

/-- An error with the command in it. -/
theorem error_same (auth : req.authMode = true) (hp : isUuid p = true) (hq : isUuid q = true)
    (other : p ≠ q) (before behind : Text) :
    log logLevel gbLogError (before ++ (req.repass p).command ++ behind) =
        log logLevel gbLogError (before ++ (req.repass q).command ++ behind) ↔
      (gbLogError ≤ logLevel → Loginless req) := by
  rw [← command_inj auth hp hq other]
  constructor
  · intro same written
    have texts := log_inj written same
    simpa using texts
  · intro same
    by_cases written : gbLogError ≤ logLevel
    · rw [same written]
    · unfold log
      rw [if_neg written, if_neg written]

theorem log_silent {level : Nat} {s : Text} (silent : ¬ level ≤ logLevel) :
    log logLevel level s = [] := if_neg silent

theorem debugLine_length {label : String} {s t : Text} {c d : List LogLine}
    (first : debugLine logLevel label s = some c) (second : debugLine logLevel label t = some d) :
    c.length = d.length := by
  unfold debugLine at first second
  by_cases debug : gbLogDebug ≤ logLevel
  · rw [if_pos debug] at first second
    obtain ⟨u, _, rfl⟩ := Option.map_eq_some_iff.mp first
    obtain ⟨u', _, rfl⟩ := Option.map_eq_some_iff.mp second
    rfl
  · rw [if_neg debug] at first second
    obtain rfl := Option.some.inj first
    obtain rfl := Option.some.inj second
    rfl

theorem validate_low {out : Text} (low : ¬ gbLogError ≤ logLevel) :
    (blockValidateCommandOutput logLevel req out).1 = [] := by
  unfold blockValidateCommandOutput
  split
  · rfl
  · rw [log_silent low, log_silent low]
    rfl

theorem refusal_length {out : Text} {label : String} (written : gbLogError ≤ logLevel) :
    (refusal logLevel req out label).length = 2 := by
  unfold refusal log
  rw [if_pos written, if_pos written]
  rfl

/-- What is said of a missing message gives the output away. -/
theorem refusal_inj {req' : SrvRequest} {out out' : Text} {label label' : String}
    (written : gbLogError ≤ logLevel)
    (same : refusal logLevel req out label = refusal logLevel req' out' label') : out = out' := by
  obtain ⟨_, outputs⟩ := List.append_inj same log_length
  have texts := log_inj written outputs
  simpa using texts

/-- When the validation says the same of both runs, it says nothing, or there is no password
in the output. -/
theorem validate_alike (hp : isUuid p = true) (hq : isUuid q = true) (other : p ≠ q)
    {lines : List OutLine} (written : gbLogError ≤ logLevel)
    (same : (blockValidateCommandOutput logLevel (req.repass p) (outText p.toList lines)).1 =
      (blockValidateCommandOutput logLevel (req.repass q) (outText q.toList lines)).1) :
    (∀ l ∈ lines, l.echoes = []) ∨ Complete (req.repass p) (outText p.toList lines) ∧
      Complete (req.repass q) (outText q.toList lines) := by
  by_cases first : Complete (req.repass p) (outText p.toList lines)
  · by_cases second : Complete (req.repass q) (outText q.toList lines)
    · exact .inr ⟨first, second⟩
    · obtain ⟨m, -, said⟩ := @validate_incomplete _ logLevel _ second
      rw [validate_complete first, said] at same
      have lengths := congrArg List.length same
      rw [refusal_length written] at lengths
      cases lengths
  · obtain ⟨m, -, said⟩ := @validate_incomplete _ logLevel _ first
    by_cases second : Complete (req.repass q) (outText q.toList lines)
    · rw [validate_complete second, said] at same
      have lengths := congrArg List.length same
      rw [refusal_length written] at lengths
      cases lengths
    · obtain ⟨m', -, said'⟩ := @validate_incomplete _ logLevel _ second
      rw [said, said'] at same
      have outputs := refusal_inj written same
      refine .inl (fun l mem => ?_)
      by_contra echoes
      exact other (outText_inj hp hq l mem echoes outputs)

theorem validate_same (auth : req.authMode = true) {lines : List OutLine}
    (said : gbLogError ≤ logLevel → (∀ l ∈ lines, l.echoes = []) ∨
      Complete (req.repass p) (outText p.toList lines) ∧
        Complete (req.repass q) (outText q.toList lines)) :
    let first := blockValidateCommandOutput logLevel (req.repass p) (outText p.toList lines)
    let second := blockValidateCommandOutput logLevel (req.repass q) (outText q.toList lines)
    first.1 = second.1 ∧
      log logLevel gbLogInfo ("command exit code, ".toList ++ (toString first.2).toList) =
        log logLevel gbLogInfo ("command exit code, ".toList ++ (toString second.2).toList) := by
  dsimp only
  by_cases written : gbLogError ≤ logLevel
  · rcases said written with silent | ⟨first, second⟩
    · rw [validate_silent auth silent]
      exact ⟨rfl, rfl⟩
    · rw [validate_complete first, validate_complete second]
      exact ⟨rfl, rfl⟩
  · have low : ¬ gbLogInfo ≤ logLevel := by
      simp only [gbLogError, gbLogInfo] at written ⊢
      omega
    rw [validate_low written, validate_low written, log_silent low, log_silent low]
    exact ⟨rfl, rfl⟩

section Cases

variable (auth : req.authMode = true) (hg : isUuid req.gbid = true) (hp : isUuid p = true)
  (hq : isUuid q = true) (other : p ≠ q)
include auth hg hp hq other

theorem quiet_unreadable (errno : Text) :
    (∃ lines, daemonLog logLevel req sr (.unreadable errno) p = some lines ∧
      daemonLog logLevel req sr (.unreadable errno) q = some lines) ↔
      Quiet logLevel req sr (.unreadable errno) p q := by
  unfold Quiet daemonLog gbCmdExecAndValidate Execution.popen
  rw [command_same auth hg hp hq, ← debugLine_isSome]
  dsimp only
  rw [volBlk_repass, volBlk_repass, ← error_same auth hp hq other]
  cases debugLine logLevel "command: " (req.repass p).command with
  | none => simp
  | some c =>
    constructor
    · rintro ⟨lines, first, second⟩
      have same := (Option.some.inj first).trans (Option.some.inj second).symm
      exact ⟨⟨c, rfl⟩, List.append_cancel_left same⟩
    · rintro ⟨_, same⟩
      exact ⟨_, rfl, congrArg (fun e => some (c ++ e)) same.symm⟩

theorem quiet_failed (errno : Text) :
    (∃ lines, daemonLog logLevel req sr (.failed errno) p = some lines ∧
      daemonLog logLevel req sr (.failed errno) q = some lines) ↔
      Quiet logLevel req sr (.failed errno) p q := by
  unfold Quiet daemonLog gbCmdExecAndValidate Execution.popen
  rw [command_same auth hg hp hq, ← debugLine_isSome]
  dsimp only
  rw [volBlk_repass, volBlk_repass, ← error_same auth hp hq other, ← debugLine_isSome]
  cases debugLine logLevel "command: " (req.repass p).command with
  | none => simp
  | some c =>
    cases debugLine logLevel "raw output: " sr.out with
    | none => simp
    | some raw =>
      constructor
      · rintro ⟨lines, first, second⟩
        have same := (Option.some.inj first).trans (Option.some.inj second).symm
        have front := List.append_cancel_right (List.append_cancel_right same)
        exact ⟨⟨c, rfl⟩, List.append_cancel_left front, raw, rfl⟩
      · rintro ⟨_, same, _⟩
        exact ⟨_, rfl, congrArg (fun e => some (c ++ e ++ raw ++ _)) same.symm⟩

theorem quiet_ran (lines : List OutLine) :
    (∃ out, daemonLog logLevel req sr (.ran lines) p = some out ∧
      daemonLog logLevel req sr (.ran lines) q = some out) ↔
      Quiet logLevel req sr (.ran lines) p q := by
  have lengths : (outText p.toList lines).length = (outText q.toList lines).length :=
    linesOf_length (fun l _ => outLine_length hp hq)
  have masked : (gbLogDebug ≤ logLevel → ∀ l ∈ lines, l.Hidden) ↔
      ∃ c, debugLine logLevel "raw output: " (outText p.toList lines) = some c ∧
        debugLine logLevel "raw output: " (outText q.toList lines) = some c := by
    rw [debugLine_iff, outText_hidden hp hq other]
  unfold Quiet daemonLog gbCmdExecAndValidate Execution.popen
  rw [command_same auth hg hp hq, ← debugLine_isSome]
  dsimp only
  rw [masked, ← lengths]
  cases debugLine logLevel "command: " (req.repass p).command with
  | none => simp
  | some c =>
    by_cases short : (outText p.toList lines).length < outMax
    · simp only [Option.bind_eq_bind, Option.bind_some, short, if_true]
      constructor
      · rintro ⟨out, first, second⟩
        obtain ⟨raw, shown, all⟩ := Option.bind_eq_some_iff.mp first
        obtain ⟨raw', shown', all'⟩ := Option.bind_eq_some_iff.mp second
        have same := (Option.some.inj all).trans (Option.some.inj all').symm
        have front := (List.append_inj' same log_length).1
        obtain ⟨said, raws⟩ := List.append_inj' front (debugLine_length shown shown')
        refine ⟨⟨c, rfl⟩, trivial, fun written => ?_, raw, shown, raws ▸ shown'⟩
        exact validate_alike hp hq other written (List.append_cancel_left said)
      · rintro ⟨_, _, said, raw, shown, shown'⟩
        obtain ⟨lines', code⟩ := validate_same auth said
        exact ⟨_, by rw [shown]; rfl, by rw [shown', ← lines', ← code]; rfl⟩
    · simp [short]

end Cases

/-- Two runs with different passwords write the same lines exactly when nothing goes to the
log with a password in it: no command that fails to run, no output with an echo in which a
message is missing, and under the debug level no line with an echo that the mask misses. -/
theorem exec_quiet (auth : req.authMode = true) (hg : isUuid req.gbid = true)
    (hp : isUuid p = true) (hq : isUuid q = true) (other : p ≠ q) (exec : Execution) :
    (∃ lines, daemonLog logLevel req sr exec p = some lines ∧
      daemonLog logLevel req sr exec q = some lines) ↔ Quiet logLevel req sr exec p q := by
  cases exec with
  | failed errno => exact quiet_failed auth hg hp hq other errno
  | unreadable errno => exact quiet_unreadable auth hg hp hq other errno
  | ran lines => exact quiet_ran auth hg hp hq other lines

def loginSample : SrvRequest := .modify
  { volume := "vol"
    blockName := "block"
    gbid := "6b60c53c-8ce0-4d8d-a42c-5b546bca3d09"
    passwd := ""
    authMode := true } 1

def oldPasswd : String := "0b9cc5ab-5f8d-46a9-8b0e-6a1cd04e5c3e"
def newPasswd : String := "f4f62a5f-6d5b-49c5-8f5c-3b6a3e7b2f11"

def textLine (t : String)
    (plain : ∀ s ∈ [t.toList], '\n' ∉ s ∧ '\x00' ∉ s ∧ ¬ echoMark <:+: s) : OutLine where
  front := t.toList
  echoes := []
  plain := plain

def echoLine : OutLine where
  front := []
  echoes := [['.']]
  plain := by decide

/-- The userid and the password are set, the authentication is not. -/
def partOutput : Execution := .ran
  [textLine "Parameter userid is now '6b60c53c-8ce0-4d8d-a42c-5b546bca3d09'." (by decide), echoLine]

theorem exec_quiet_sample :
    (∃ lines, daemonLog gbLogInfo loginSample ⟨[], 0⟩ partOutput oldPasswd = some lines ∧
      daemonLog gbLogInfo loginSample ⟨[], 0⟩ partOutput newPasswd = some lines) ↔
      Quiet gbLogInfo loginSample ⟨[], 0⟩ partOutput oldPasswd newPasswd :=
  exec_quiet rfl (by decide) (by decide) (by decide) (by decide) partOutput

/-- The whole output goes to the log when a message is missing. -/
theorem missing_message_leaks :
    (daemonLog gbLogInfo loginSample ⟨[], 0⟩ partOutput oldPasswd).isSome ∧
    (daemonLog gbLogInfo loginSample ⟨[], 0⟩ partOutput newPasswd).isSome ∧
    daemonLog gbLogInfo loginSample ⟨[], 0⟩ partOutput oldPasswd ≠
      daemonLog gbLogInfo loginSample ⟨[], 0⟩ partOutput newPasswd := by
  decide +kernel

end Runs

end GlusterBlock
