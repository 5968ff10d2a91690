import GlusterBlock.ExecCommand

/-! The change of the login on one node. One script has the commands for every portal group,
and its output is searched for each message once, as far as it was read. -/
namespace GlusterBlock

open Search

section Lines

variable {α : Type}

/-- The text of lines that each end in a newline. -/
def printedText (lines : List (α × Text)) : Text := lines.flatMap (fun p => p.2 ++ ['\n'])

/-- What so many bytes have of each line. -/
def cutLines : Nat → List (α × Text) → List (α × Text)
  | _, [] => []
  | n, (a, l) :: ls => (a, l.take n) :: cutLines (n - (l.length + 1)) ls

theorem cutLines_none (ls : List (α × Text)) : ∀ p ∈ cutLines 0 ls, p.2 = [] := by
  induction ls with
  | nil => simp [cutLines]
  | cons p ls ih =>
    rw [cutLines, Nat.zero_sub]
    simpa using ih

/-- What is read of a line is a front of it. -/
theorem mem_cutLines {n : Nat} {ls : List (α × Text)} {p : α × Text} (mem : p ∈ cutLines n ls) :
    ∃ l, (p.1, l) ∈ ls ∧ p.2 <+: l := by
  induction ls generalizing n with
  | nil => cases mem
  | cons q ls ih =>
    rw [cutLines] at mem
    rcases List.mem_cons.mp mem with rfl | later
    · exact ⟨q.2, List.mem_cons_self, List.take_prefix n q.2⟩
    · obtain ⟨l, here, front⟩ := ih later
      exact ⟨l, List.mem_cons_of_mem q here, front⟩

/-- A message in the front of an output is in one of its lines. -/
theorem message_read {m : Text} (nonempty : m ≠ []) (inLine : '\n' ∉ m) (n : Nat)
    (ls : List (α × Text)) :
    m <:+: (printedText ls).take n ↔ ∃ p ∈ cutLines n ls, m <:+: p.2 := by
  induction ls generalizing n with
  | nil => simp [printedText, cutLines, nonempty]
  | cons q ls ih =>
    have text : printedText (q :: ls) = q.2 ++ '\n' :: printedText ls := by simp [printedText]
    rw [text, cutLines, List.exists_mem_cons_iff]
    by_cases short : n ≤ q.2.length
    · have rest : ¬ ∃ p ∈ cutLines (n - (q.2.length + 1)) ls, m <:+: p.2 := by
        have zero : n - (q.2.length + 1) = 0 := by omega
        rw [zero]
        rintro ⟨p, mem, occurs⟩
        rw [cutLines_none ls p mem, List.infix_nil] at occurs
        exact nonempty occurs
      rw [List.take_append_of_le_length short]
      exact ⟨fun front => .inl front, fun found => found.resolve_right rest⟩
    · have more : n - q.2.length = n - (q.2.length + 1) + 1 := by omega
      rw [List.take_append, List.take_of_length_le (by omega), more, List.take_succ_cons,
        infix_apart inLine nonempty, ih]

end Lines

section Reply

/-- How the searches for a block end, each where the ones in front of it get to it. -/
structure LoadedRuns where
  glfs : Int
  iscsi : Int
  savecfg : Int
  deriving DecidableEq, Repr

def blockCheckBlockLoadedStatus (blockName : String) (runs : LoadedRuns) (exit : Int) :
    Int × SrvReply :=
  let abnormal : SrvReply := ⟨("command exit abnormally for '" ++ blockName ++ "'.").toList, exit⟩
  if runs.glfs = -1 ∨ runs.glfs = 0 ∧ runs.iscsi = -1 then (-1, abnormal)
  else if runs.glfs = 0 ∧ runs.iscsi = 0 then (0, ⟨[], exit⟩)
  else
    let missing := runs.glfs = 1 ∨ runs.glfs = 0 ∧ runs.iscsi = 1
    let out :=
      if runs.glfs = 1 then ("Block '" ++ blockName ++ "' may be not loaded.").toList
      else if missing then ("Target for '" ++ blockName ++ "' may be not loaded.").toList
      else []
    if runs.savecfg = -1 then (-1, abnormal)
    else if runs.savecfg = 1 ∨ runs.savecfg = 2 then
      (runs.savecfg,
        if missing then ⟨("Block '" ++ blockName ++ "' already deleted.").toList, gbBlockNotFound⟩
        else ⟨out, exit⟩)
    else if missing then (-1, ⟨("Block '" ++ blockName ++ "' not loaded.").toList, gbBlockNotLoaded⟩)
    else (runs.savecfg, ⟨out, exit⟩)

/-- What is read of an output: of a long one the front, and nothing behind a null. -/
def execText (out : Text) : Text := (out.take outMax).takeWhile (· != '\x00')

theorem execText_front (out : Text) : execText out <+: out :=
  (List.takeWhile_prefix _).trans (List.take_prefix outMax out)

theorem execText_plain {out : Text} (short : out.length ≤ outMax) (plain : '\x00' ∉ out) :
    execText out = out := by
  unfold execText
  rw [List.take_of_length_le short]
  refine List.takeWhile_eq_self_iff.mpr (fun c mem => bne_iff_ne.mpr ?_)
  rintro rfl
  exact plain mem

/-- What a run leaves in the reply. A command that does not start leaves all as it was. -/
def execReply (messages : List Text) (sr : SrvReply) : Popen → SrvReply
  | .failed _ => sr
  | .unreadable _ => ⟨[], -1⟩
  | .output out => ⟨execText out, if ∀ m ∈ messages, m <:+: execText out then 0 else -1⟩

def statusMessage (gbid : String) : Text :=
  ("Status for /iscsi/" ++ gbTgcliIqnPrefix ++ gbid ++ ": TPGs:").toList

/-- The number behind the last colon. -/
def tpgCount (out : Text) : Nat :=
  if ':' ∈ out then (CText.scanZu (out.reverse.takeWhile (· != ':')).reverse).getD 0 else 0

def modifyMessages (blk : BlockModify) : List Text := (SrvRequest.modify blk 0).messages.map Prod.snd

/-- The text of a reply is replaced when its exit is not 0. -/
def modifyFailed (sr : SrvReply) : SrvReply :=
  if sr.exit ≠ 0 then { sr with out := "modify failed".toList } else sr

theorem modifyFailed_exit (sr : SrvReply) : (modifyFailed sr).exit = sr.exit := by
  unfold modifyFailed
  split <;> rfl

structure ModifySvcEnv where
  loaded : LoadedRuns
  status : Popen
  targetcli : Text → Popen

/-- `block_modify_1_svc_st`; `none` is a loop without an end, whose counter does not get past
the greatest number. -/
def blockModifySvc (blk : BlockModify) (env : ModifySvcEnv) : Option SrvReply :=
  let (ret, reply) := blockCheckBlockLoadedStatus blk.blockName env.loaded (-1)
  if ret ≠ 0 then some reply
  else
    let reply := execReply [statusMessage blk.gbid] ⟨[], reply.exit⟩ env.status
    if reply.exit ≠ 0 then some (modifyFailed reply)
    else
      let tpgs := tpgCount reply.out
      if tpgs = CText.maxSize then none
      else
        some (modifyFailed
          (execReply (modifyMessages blk) reply (env.targetcli (modifyScript blk tpgs))))

end Reply

section Run

/-- A command of the script, by the tag of its portal group. -/
inductive ModifyCommand where
  | enforce (tag : Nat)
  | login (tag : Nat)
  deriving DecidableEq, Repr

def ModifyCommand.text (blk : BlockModify) : ModifyCommand → Text
  | .enforce tag => tgcliTpg blk.gbid tag ++
      (if blk.authMode then " set attribute authentication=1" else
        " set attribute authentication=0").toList
  | .login tag => authcred blk.gbid tag blk.passwd.toList

/-- A line for each parameter that it sets. -/
def ModifyCommand.prints (blk : BlockModify) : ModifyCommand → List Text
  | .enforce _ => [(if blk.authMode then "Parameter authentication is now '1'." else
      "Parameter authentication is now '0'.").toList]
  | .login _ => [("Parameter userid is now '" ++ blk.gbid ++ "'.").toList,
      ("Parameter password is now '" ++ blk.passwd ++ "'.").toList]

def groupCommands (blk : BlockModify) (tag : Nat) : List ModifyCommand :=
  .enforce tag :: if blk.authMode then [.login tag] else []

def modifyCommands (blk : BlockModify) (tpgs : Nat) : List ModifyCommand :=
  (List.range' 1 tpgs).flatMap (groupCommands blk)

variable (blk : BlockModify) (tpgs : Nat)

theorem modifyLines_commands (tag : Nat) :
    modifyLines blk tag = (groupCommands blk tag).map (ModifyCommand.text blk) := by
  unfold modifyLines groupCommands ModifyCommand.text
  cases blk.authMode <;> rfl

theorem modifyExec_commands (tags : List Nat) (front : List ModifyCommand) (some : front ≠ []) :
    tags.foldl (modifyExec blk) (.some (linesOf (front.map (ModifyCommand.text blk)))) =
      .some (linesOf ((front ++ tags.flatMap (groupCommands blk)).map (ModifyCommand.text blk))) := by
  induction tags generalizing front with
  | nil => simp
  | cons tag tags ih =>
    have more : modifyExec blk (.some (linesOf (front.map (ModifyCommand.text blk)))) tag =
        .some (linesOf ((front ++ groupCommands blk tag).map (ModifyCommand.text blk))) := by
      unfold modifyExec
      have behind : (groupCommands blk tag).map (ModifyCommand.text blk) ≠ [] := by
        simp [groupCommands]
      dsimp only
      rw [modifyLines_commands, linesOf_cons behind, List.map_append,
        linesOf_append (by simpa using some) behind]
    rw [List.foldl_cons, more, ih _ (by simp [some]), List.flatMap_cons, List.append_assoc]

theorem modifyScript_commands (some : tpgs ≠ 0) :
    modifyScript blk tpgs =
      targetcliScript (.some (linesOf ((modifyCommands blk tpgs).map (ModifyCommand.text blk))))
        blk.blockName := by
  obtain ⟨rest, rfl⟩ := Nat.exists_eq_succ_of_ne_zero some
  unfold modifyScript modifyCommands
  rw [List.range'_succ, List.foldl_cons, List.flatMap_cons]
  have first : modifyExec blk none 1 =
      .some (linesOf ((groupCommands blk 1).map (ModifyCommand.text blk))) := by
    unfold modifyExec
    rw [modifyLines_commands]
  rw [first, modifyExec_commands blk _ _ (by simp [groupCommands])]

end Run

/-- One run of the commands: which of them work, and the lines of the output, each with the
command that printed it. A parameter is reported when it is set and never otherwise. -/
structure ModifyRun (blk : BlockModify) (tpgs : Nat) where
  works : ModifyCommand → Bool
  lines : List (Option ModifyCommand × Text)
  inLine : ∀ p ∈ lines, '\n' ∉ p.2
  printed : ∀ c ∈ modifyCommands blk tpgs, works c = true →
    ∀ m ∈ c.prints blk, ∃ line, (some c, line) ∈ lines ∧ m <:+: line
  silent : ∀ p ∈ lines, ∀ m ∈ modifyMessages blk, m <:+: p.2 →
    ∃ c ∈ modifyCommands blk tpgs, p.1 = some c ∧ works c = true ∧ m ∈ c.prints blk

section Auth

variable {blk : BlockModify} {tpgs : Nat}

def ModifyRun.output (run : ModifyRun blk tpgs) : Text := printedText run.lines

/-- What the daemon reads of the lines. -/
def ModifyRun.shown (run : ModifyRun blk tpgs) : List (Option ModifyCommand × Text) :=
  cutLines (execText run.output).length run.lines

/-- Every command of every group works. -/
def ModifyRun.Whole (run : ModifyRun blk tpgs) : Prop :=
  ∀ c ∈ modifyCommands blk tpgs, run.works c = true

/-- What the daemon gets of a run. Nothing works in one that was not started. -/
inductive ModifyRun.Answers (run : ModifyRun blk tpgs) : Popen → Prop
  | read : run.Answers (.output run.output)
  | unreadable (errno : Text) : run.Answers (.unreadable errno)
  | unstarted (errno : Text) (idle : ∀ c, run.works c = false) : run.Answers (.failed errno)

/-- The status with the number of groups. -/
def tpgStatus (gbid : String) (tpgs : Nat) : Text :=
  statusMessage gbid ++ ' ' :: ((toString tpgs).toList ++ ['\n'])

/-- The reply has the exit 0 only if the parameters were set for every group. -/
def AuthOnAll (run : ModifyRun blk tpgs) (answer : Popen) : Prop :=
  ∀ (env : ModifySvcEnv) (reply : SrvReply),
    (∀ out, env.status = .output out → out = tpgStatus blk.gbid tpgs) →
    env.targetcli (modifyScript blk tpgs) = answer → blockModifySvc blk env = some reply →
    reply.exit = 0 → run.Whole

/-- All commands work, or some message is in no line that a working command printed and that
was read. -/
def ModifyCare (run : ModifyRun blk tpgs) (answer : Popen) : Prop :=
  run.Whole ∨ tpgs = CText.maxSize ∨ (∃ errno, answer = .unreadable errno) ∨
    answer = .output run.output ∧ ∃ m ∈ modifyMessages blk, ∀ c line,
      (some c, line) ∈ run.shown → run.works c = true → ¬ m <:+: line

variable (blk) in
theorem tpgCount_status (hg : isUuid blk.gbid = true) (size : tpgs ≤ CText.maxSize) :
    execText (tpgStatus blk.gbid tpgs) = tpgStatus blk.gbid tpgs ∧
      tpgCount (tpgStatus blk.gbid tpgs) = tpgs := by
  have number : (toString tpgs).toList = Nat.toDigits 10 tpgs := String.toList_ofList
  have digits : (Nat.toDigits 10 tpgs).length ≤ 20 := by
    rw [Nat.length_toDigits_le_iff (by decide) (by decide)]
    unfold CText.maxSize at size
    omega
  have other : ∀ c, c.isDigit = false → c ≠ ' ' → c ≠ '\n' →
      c ∉ ' ' :: (Nat.toDigits 10 tpgs ++ ['\n']) := by
    intro c letter blank line mem
    simp only [List.mem_cons, List.mem_append, List.not_mem_nil, or_false] at mem
    rcases mem with first | digit | last
    · exact blank first
    · exact absurd (CText.digits_isDigit digit) (by simp [letter])
    · exact line last
  have colon : ':' ∉ ' ' :: (Nat.toDigits 10 tpgs ++ ['\n']) :=
    other ':' (by decide) (by decide) (by decide)
  have shape : tpgStatus blk.gbid tpgs =
      ("Status for /iscsi/" ++ gbTgcliIqnPrefix ++ blk.gbid ++ ": TPGs").toList ++
        ':' :: ' ' :: (Nat.toDigits 10 tpgs ++ ['\n']) := by
    unfold tpgStatus statusMessage
    rw [number]
    simp [String.toList_append]
  rw [shape]
  constructor
  · have uuid := uuid_length hg
    have iqn : gbTgcliIqnPrefix.toList.length = 30 := by decide
    have word : "Status for /iscsi/".toList.length = 18 := by decide
    have groups : ": TPGs".toList.length = 6 := by decide
    have plain : '\x00' ∉ blk.gbid.toList := uuid_not_mem hg (by decide) (by decide)
    have fixed : '\x00' ∉ "Status for /iscsi/".toList ∧ '\x00' ∉ gbTgcliIqnPrefix.toList ∧
        '\x00' ∉ ": TPGs".toList := by decide
    have count : '\x00' ∉ ' ' :: (Nat.toDigits 10 tpgs ++ ['\n']) :=
      other '\x00' (by decide) (by decide) (by decide)
    apply execText_plain
    · simp only [String.toList_append, List.length_append, List.length_cons, List.length_nil, uuid,
        iqn, word, groups]
      unfold outMax
      omega
    · simp only [String.toList_append, List.mem_append, List.mem_cons (b := ':'), not_or, fixed,
        plain, count]
      decide
  · have last : ((("Status for /iscsi/" ++ gbTgcliIqnPrefix ++ blk.gbid ++ ": TPGs").toList ++
        ':' :: ' ' :: (Nat.toDigits 10 tpgs ++ ['\n'])).reverse.takeWhile (· != ':')).reverse =
          ' ' :: (Nat.toDigits 10 tpgs ++ ['\n']) := by
      have back : ∀ c ∈ (' ' :: (Nat.toDigits 10 tpgs ++ ['\n'])).reverse, (c != ':') = true := by
        intro c mem
        have other : c ≠ ':' := by
          rintro rfl
          exact colon (List.mem_reverse.mp mem)
        simpa using other
      rw [List.reverse_append, List.reverse_cons, List.append_assoc,
        List.takeWhile_append_of_pos back, List.singleton_append,
        List.takeWhile_cons_of_neg (by simp), List.append_nil, List.reverse_reverse]
    unfold tpgCount
    rw [if_pos (by simp), last, CText.scanZu_space, CText.scanZu_front size (by simp)]
    rfl

theorem modifyMessages_prints (blk : BlockModify) :
    modifyMessages blk = (groupCommands blk 0).flatMap (ModifyCommand.prints blk) := by
  unfold modifyMessages SrvRequest.messages groupCommands
  cases auth : blk.authMode with
  | false => simp [ModifyCommand.prints, auth]
  | true => simp [ModifyCommand.prints, SrvRequest.loginMessages, auth]

theorem modifyMessages_line (hg : isUuid blk.gbid = true)
    (hp : blk.authMode = true → isUuid blk.passwd = true) {m : Text} (mem : m ∈ modifyMessages blk) :
    m ≠ [] ∧ '\n' ∉ m := by
  rw [modifyMessages_prints] at mem
  have quoted : ∀ front id : String, '\n' ∉ front.toList → isUuid id = true →
      '\n' ∉ (front ++ id ++ "'.").toList := by
    intro front id clean uuid mem
    rw [String.toList_append, String.toList_append, List.mem_append, List.mem_append] at mem
    rcases mem with (first | second) | third
    · exact clean first
    · exact uuid_not_mem uuid (by decide) (by decide) second
    · exact absurd third (by decide)
  obtain ⟨c, here, line⟩ := List.mem_flatMap.mp mem
  unfold groupCommands at here
  cases auth : blk.authMode with
  | false =>
    rw [auth] at here
    obtain rfl := List.mem_singleton.mp here
    simp only [ModifyCommand.prints, auth, Bool.false_eq_true, if_false, List.mem_singleton] at line
    rw [line]
    decide
  | true =>
    rw [auth, if_pos rfl] at here
    simp only [List.mem_cons, List.not_mem_nil, or_false] at here
    rcases here with rfl | rfl
    · simp only [ModifyCommand.prints, auth, if_true, List.mem_singleton] at line
      rw [line]
      decide
    · simp only [ModifyCommand.prints, List.mem_cons, List.not_mem_nil, or_false] at line
      rcases line with rfl | rfl
      · exact ⟨by simp [String.toList_append], quoted _ _ (by decide) hg⟩
      · exact ⟨by simp [String.toList_append], quoted _ _ (by decide) (hp auth)⟩

/-- A run that is read is taken for good when a working command shows each message. -/
theorem run_read (hg : isUuid blk.gbid = true) (hp : blk.authMode = true → isUuid blk.passwd = true)
    (run : ModifyRun blk tpgs) (sr : SrvReply) :
    (execReply (modifyMessages blk) sr (.output run.output)).exit = 0 ↔
      ∀ m ∈ modifyMessages blk, ∃ c line, (some c, line) ∈ run.shown ∧
        run.works c = true ∧ m <:+: line := by
  have found : ∀ m ∈ modifyMessages blk, m <:+: execText run.output ↔
      ∃ c line, (some c, line) ∈ run.shown ∧ run.works c = true ∧ m <:+: line := by
    intro m mem
    obtain ⟨nonempty, inLine⟩ := modifyMessages_line hg hp mem
    have front : execText run.output = (printedText run.lines).take (execText run.output).length :=
      List.prefix_iff_eq_take.mp (execText_front run.output)
    rw [front, message_read nonempty inLine]
    unfold ModifyRun.shown
    constructor
    · rintro ⟨p, here, occurs⟩
      obtain ⟨l, line, front⟩ := mem_cutLines here
      obtain ⟨c, _, of, works, _⟩ := run.silent _ line m mem (occurs.trans front.isInfix)
      refine ⟨c, p.2, ?_, works, occurs⟩
      dsimp only at of
      rw [← of]
      exact here
    · rintro ⟨c, line, here, _, occurs⟩
      exact ⟨_, here, occurs⟩
  unfold execReply
  dsimp only
  split
  · rename_i all
    exact iff_of_true rfl fun m mem => (found m mem).mp (all m mem)
  · rename_i missing
    exact iff_of_false (by decide) fun all => missing fun m mem => (found m mem).mpr (all m mem)

/-- A reply of a node that is not refused in front of the script. -/
theorem blockModifySvc_passes (env : ModifySvcEnv) (hg : isUuid blk.gbid = true)
    (size : tpgs < CText.maxSize) (loaded : env.loaded = ⟨0, 0, 0⟩)
    (status : env.status = .output (tpgStatus blk.gbid tpgs)) :
    blockModifySvc blk env =
      some (modifyFailed (execReply (modifyMessages blk) ⟨tpgStatus blk.gbid tpgs, 0⟩
        (env.targetcli (modifyScript blk tpgs)))) := by
  obtain ⟨whole, count⟩ := tpgCount_status blk hg size.le
  have check : blockCheckBlockLoadedStatus blk.blockName ⟨0, 0, 0⟩ (-1) = (0, ⟨[], -1⟩) := rfl
  have shows : statusMessage blk.gbid <:+: tpgStatus blk.gbid tpgs :=
    (List.prefix_append _ _).isInfix
  have valid : execReply [statusMessage blk.gbid] ⟨[], -1⟩ (.output (tpgStatus blk.gbid tpgs)) =
      ⟨tpgStatus blk.gbid tpgs, 0⟩ := by
    unfold execReply
    dsimp only
    rw [whole, if_pos (by simpa using shows)]
  unfold blockModifySvc
  rw [loaded, status, check]
  dsimp only
  rw [valid]
  dsimp only
  rw [count, if_neg (by simp), if_neg (by simp), if_neg size.ne]

theorem loaded_exit (blockName : String) (runs : LoadedRuns) :
    (blockCheckBlockLoadedStatus blockName runs (-1)).2.exit ≠ 0 := by
  have codes : (blockCheckBlockLoadedStatus blockName runs (-1)).2.exit ∈
      [-1, gbBlockNotFound, gbBlockNotLoaded] := by
    unfold blockCheckBlockLoadedStatus
    dsimp only
    repeat' split
    all_goals simp
  intro zero
  rw [zero] at codes
  exact absurd codes (by decide)

/-- A reply with the exit 0 is one behind the script for all groups. -/
theorem blockModifySvc_zero (hg : isUuid blk.gbid = true) (size : tpgs ≤ CText.maxSize)
    {env : ModifySvcEnv} {reply : SrvReply}
    (status : ∀ out, env.status = .output out → out = tpgStatus blk.gbid tpgs)
    (run : blockModifySvc blk env = some reply) (zero : reply.exit = 0) :
    tpgs ≠ CText.maxSize ∧ ∃ sr : SrvReply, (execReply (modifyMessages blk) sr
      (env.targetcli (modifyScript blk tpgs))).exit = 0 := by
  have refused := loaded_exit blk.blockName env.loaded
  unfold blockModifySvc at run
  generalize blockCheckBlockLoadedStatus blk.blockName env.loaded (-1) = check at run refused
  obtain ⟨ret, first⟩ := check
  dsimp only at run refused
  split at run
  · cases run
    exact absurd zero refused
  · split at run
    · rename_i failed
      cases run
      rw [modifyFailed_exit] at zero
      exact absurd zero failed
    · rename_i good
      have good : (execReply [statusMessage blk.gbid] ⟨[], first.exit⟩ env.status).exit = 0 := by
        simpa using good
      cases printed : env.status with
      | failed errno =>
        rw [printed] at good
        exact absurd good refused
      | unreadable errno =>
        rw [printed] at good
        cases good
      | output out =>
        obtain rfl := status out printed
        obtain ⟨whole, count⟩ := tpgCount_status blk hg size
        rw [printed] at run
        change (if tpgCount (execText (tpgStatus blk.gbid tpgs)) = CText.maxSize then none
          else some (modifyFailed (execReply (modifyMessages blk) _ (env.targetcli
            (modifyScript blk (tpgCount (execText (tpgStatus blk.gbid tpgs)))))))) =
          some reply at run
        rw [whole, count] at run
        split at run
        · cases run
        · rename_i few
          cases run
          rw [modifyFailed_exit] at zero
          exact ⟨few, _, zero⟩

/-- A reply says 0 only with the login on every group exactly when each command works, or no
working command shows one of the messages to the daemon. -/
theorem auth_on_all_iff (hg : isUuid blk.gbid = true)
    (hp : blk.authMode = true → isUuid blk.passwd = true) (size : tpgs ≤ CText.maxSize)
    (run : ModifyRun blk tpgs) {answer : Popen} (answers : run.Answers answer) :
    AuthOnAll run answer ↔ ModifyCare run answer := by
  constructor
  · intro sound
    by_cases whole : run.Whole
    · exact .inl whole
    · by_cases endless : tpgs = CText.maxSize
      · exact .inr (.inl endless)
      · let env : ModifySvcEnv :=
          { loaded := ⟨0, 0, 0⟩, status := .output (tpgStatus blk.gbid tpgs),
            targetcli := fun _ => answer }
        have passes := blockModifySvc_passes env hg (by omega) rfl rfl
        have refused : (execReply (modifyMessages blk) ⟨tpgStatus blk.gbid tpgs, 0⟩ answer).exit ≠
            0 := by
          intro zero
          rw [← modifyFailed_exit] at zero
          exact whole (sound env _ (fun out same => by cases same; rfl) rfl passes zero)
        cases answers with
        | read =>
          refine .inr (.inr (.inr ⟨rfl, ?_⟩))
          have missing := mt (run_read hg hp run ⟨tpgStatus blk.gbid tpgs, 0⟩).mpr refused
          push Not at missing
          exact missing
        | unreadable errno => exact .inr (.inr (.inl ⟨errno, rfl⟩))
        | unstarted errno idle => exact absurd rfl refused
  · intro care env reply status same result zero
    obtain ⟨ends, sr, valid⟩ := blockModifySvc_zero hg size status result zero
    rw [same] at valid
    rcases care with whole | endless | ⟨errno, rfl⟩ | ⟨rfl, m, mem, missing⟩
    · exact whole
    · exact absurd endless ends
    · cases valid
    · obtain ⟨c, line, here, works, occurs⟩ := (run_read hg hp run sr).mp valid m mem
      exact absurd occurs (missing c line here works)

/-- A request to turn the login off on a target. -/
def loginOff : BlockModify where
  volume := "vol"
  blockName := "block"
  gbid := "00000000-0000-0000-0000-000000000000"
  passwd := ""
  authMode := false

/-- A run in which these commands work. -/
def loginOffRun (works : ModifyCommand → Bool) (tpgs : Nat) : ModifyRun loginOff tpgs where
  works := works
  lines := ((modifyCommands loginOff tpgs).filter works).map (fun c =>
    (some c, "Parameter authentication is now '0'.".toList))
  inLine := by
    intro p mem
    obtain ⟨c, _, rfl⟩ := List.mem_map.mp mem
    change '\n' ∉ "Parameter authentication is now '0'.".toList
    decide
  printed := by
    intro c mem on m line
    refine ⟨_, List.mem_map_of_mem (List.mem_filter.mpr ⟨mem, on⟩), ?_⟩
    cases c with
    | enforce tag =>
      rw [List.mem_singleton.mp line]
      exact List.infix_rfl
    | login tag => simp [modifyCommands, groupCommands, loginOff] at mem
  silent := by
    intro p mem m message _
    obtain ⟨c, here, rfl⟩ := List.mem_map.mp mem
    obtain ⟨mem, on⟩ := List.mem_filter.mp here
    refine ⟨c, mem, rfl, on, ?_⟩
    cases c with
    | enforce tag => exact message
    | login tag => simp [modifyCommands, groupCommands, loginOff] at mem

theorem auth_on_all_sample :
    AuthOnAll (loginOffRun (fun _ => true) 2) (.output (loginOffRun (fun _ => true) 2).output) :=
  (auth_on_all_iff (by decide) (by decide) (by decide) _ .read).mpr
    (.inl fun _ _ => rfl)

/-- A node with two groups. -/
def twoGroups (answer : Popen) : ModifySvcEnv where
  loaded := ⟨0, 0, 0⟩
  status := .output (tpgStatus loginOff.gbid 2)
  targetcli := fun _ => answer

/-- The message of the first group is taken for both of them, and a script that does not start
leaves the exit of the status. -/
theorem second_group_unchanged :
    ¬ AuthOnAll (loginOffRun (fun c => c == .enforce 1) 2)
        (.output (loginOffRun (fun c => c == .enforce 1) 2).output) ∧
      ¬ AuthOnAll (loginOffRun (fun _ => false) 2) (.failed []) := by
  have passes : ∀ answer, blockModifySvc loginOff (twoGroups answer) = some (modifyFailed
      (execReply (modifyMessages loginOff) ⟨tpgStatus loginOff.gbid 2, 0⟩ answer)) :=
    fun answer => blockModifySvc_passes _ (by decide) (by decide) rfl rfl
  have status : ∀ answer out, (twoGroups answer).status = .output out →
      out = tpgStatus loginOff.gbid 2 := by
    intro answer out same
    cases same
    rfl
  constructor
  · intro sound
    have zero : (execReply (modifyMessages loginOff) ⟨tpgStatus loginOff.gbid 2, 0⟩
        (.output (loginOffRun (fun c => c == .enforce 1) 2).output)).exit = 0 := by decide
    have whole := sound _ _ (status _) rfl (passes _) (by rw [modifyFailed_exit, zero])
    exact absurd (whole (.enforce 2) (by decide)) (by decide)
  · intro sound
    have whole := sound _ _ (status _) rfl (passes _) rfl
    exact absurd (whole (.enforce 1) (by decide)) (by decide)

end Auth

end GlusterBlock
