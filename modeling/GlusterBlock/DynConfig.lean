import GlusterBlock.Lib.CText
import Mathlib.Logic.Function.Basic

/-! The configuration file and its reload. The lines are taken apart in one buffer, in
place, and the options that were found in any version are kept with the type they had
when they were first found. `none` is undefined behaviour: a value read as another type
than was stored, or a cursor that leaves the buffer. -/
namespace GlusterBlock.DynConfig

inductive OptionType where
  | int | str | bool
  deriving DecidableEq, Repr

/-- What was stored last in the union of an option. -/
inductive OptValue where
  | unset
  | int (n : Int)
  | str (text : List Char)
  | bool
  deriving DecidableEq, Repr

structure ConfOption where
  type : OptionType
  value : OptValue
  deriving DecidableEq, Repr

/-- The global list of options, by their keys. -/
abbrev Options := List Char → Option ConfOption

section Lines

def isBlank (c : Char) : Bool := c == ' ' || c == '\t'
def isEol (c : Char) : Bool := c == '\n' || c == '\r'
def isQuote (c : Char) : Bool := c == '"' || c == '\''

/-- A string ends in front of the first null. -/
def cstr (text : List Char) : List Char := text.takeWhile (· != '\x00')

theorem cstr_plain {text : List Char} (plain : ∀ c ∈ text, c ≠ '\x00') : cstr text = text := by
  apply List.takeWhile_eq_self_iff.mpr
  intro c mem
  exact bne_iff_ne.mpr (plain c mem)

theorem cstr_le (text : List Char) : (cstr text).length ≤ text.length :=
  (List.takeWhile_prefix _).length_le

/-- `atoi` of digits, by way of a `long`. -/
def atoi (digits : List Char) : Int :=
  (BitVec.ofNat 32 (min (Nat.ofDigitChars 10 digits 0) (2 ^ 63 - 1))).toInt

/-- The number behind the first digit of the line. -/
def intValue (s : List Char) : Option Int :=
  match (s.dropWhile (fun c => !c.isDigit)).takeWhile Char.isDigit with
  | [] => none
  | digits => some (atoi digits)

/-- The search for a digit goes on in the lines behind this one, and its end is marked
there. -/
def overrun (rest : List Char) : Option (Int × List Char) :=
  let front := rest.takeWhile (fun c => !c.isDigit)
  let digits := (rest.drop front.length).takeWhile Char.isDigit
  let behind := rest.drop (front.length + digits.length)
  if digits = [] then none
  else some (atoi digits, front ++ digits ++ (behind.take 1).map (fun _ => '\x00') ++ behind.drop 1)

/-- The text between the quotes, each of them left out only where it is. -/
def strValue (s : List Char) : List Char :=
  let s := s.dropWhile isBlank
  let s := if s.head?.any isQuote then s.tail else s
  match s.reverse.dropWhile isBlank with
  | c :: front => if isQuote c then cstr front.reverse else cstr s
  | [] => cstr s

def rawType (s : List Char) : OptionType :=
  if (s.dropWhile isBlank).head?.any Char.isDigit then .int else .str

/-- A line without a value. -/
def parseBool (p : List Char) (options : Options) : Options :=
  let key := cstr (p.takeWhile (fun c => !isBlank c))
  let option := (options key).getD ⟨.bool, .unset⟩
  Function.update options key (some { option with value := .bool })

/-- One line, and what is behind it in the buffer. -/
def glusterBlockParseOption (line rest : List Char) (options : Options) :
    Option (Options × List Char) :=
  let p := line.dropWhile isBlank
  match if '=' ∈ cstr p then CText.after '=' p else none with
  | none => some (parseBool p options, rest)
  | some s =>
    let key := ((p.takeWhile (· != '=')).reverse.dropWhile isBlank).reverse
    -- without a key the cursor goes back in front of the line
    if key = [] then none
    else
      let option := (options key).getD ⟨rawType s, .unset⟩
      let set := fun value => Function.update options key (some { option with value := value })
      match option.type with
      | .int =>
        match intValue s with
        | some n => some (set (.int n), rest)
        | none => (overrun rest).map (fun found => (set (.int found.1), found.2))
      | .str =>
        match option.value with
        | .unset | .str _ => some (set (.str (strValue s)), rest)
        | _ => none
      | .bool => some (set option.value, rest)

/-- The lines of the buffer, `fuel` of them at most. -/
def parseLines : Nat → List Char → Options → Option Options
  | 0, _, _ => none
  | fuel + 1, text, options =>
    if text = [] then some options
    else
      let line := text.takeWhile (fun c => !isEol c)
      match glusterBlockParseOption line (text.drop (line.length + 1)) options with
      | none => none
      | some (options, rest) => parseLines fuel rest options

end Lines

section Read

/-- The lines as `getline` gives them. -/
def getlines : List Char → List (List Char)
  | [] => []
  | c :: text =>
    if c = '\n' then ['\n'] :: getlines text
    else
      match getlines text with
      | [] => [[c]]
      | line :: lines => (c :: line) :: lines

def gluserBlockIsBlankOrCommentLine (line : List Char) : Bool :=
  match line.dropWhile (fun c => isBlank c || isEol c || c == '\x00') with
  | [] => true
  | c :: _ => c == '#'

def gbBufLen : Nat := 1024

/-- The lines that are kept go into a buffer that grows by one step for a line, and behind
the last one there is a null. -/
def readLines (bufLen : Nat) (buf : List Char) : List (List Char) → Option (List Char)
  | [] => if buf.length + 1 < bufLen then some (buf ++ ['\x00']) else none
  | line :: lines =>
    if gluserBlockIsBlankOrCommentLine line then readLines bufLen buf lines
    else
      let bufLen := if buf.length + line.length ≥ bufLen then bufLen + gbBufLen else bufLen
      if buf.length + line.length < bufLen ∧ '\x00' ∉ line then
        readLines bufLen (buf ++ line) lines
      else none

def glusterBlockReadConfig (file : List Char) : Option (List Char) :=
  readLines gbBufLen [] (getlines file)

end Read

section Load

structure GbConfig where
  logDir : Option (List Char)
  logLevel : Option (List Char)
  glfsLruCount : Int
  cliTimeout : Int
  deriving DecidableEq, Repr

structure ConfState where
  options : Options
  cfg : GbConfig

/-- No option was found yet. -/
def ConfState.start : ConfState where
  options := fun _ => none
  cfg := { logDir := none, logLevel := none, glfsLruCount := 0, cliTimeout := 0 }

def gbLogdirDef : List Char := "/var/log/gluster-block".toList
def gbLogLevelDef : List Char := "INFO".toList
def lruCountDef : Int := 5
def cliTimeoutDef : Int := 300

/-- `GB_PARSE_CFG_STR`: the value goes to the configuration, the default takes its place. -/
def parseCfgStr (options : Options) (key : String) (dflt : List Char) (old : Option (List Char)) :
    Option (Options × Option (List Char)) :=
  match options key.toList with
  | none => some (options, old)
  | some option =>
    match option.value with
    | .str text =>
      some (Function.update options key.toList (some { option with value := .str dflt }), some text)
    | _ => none

/-- `GB_PARSE_CFG_INT`. -/
def parseCfgInt (options : Options) (key : String) (dflt old : Int) : Option (Options × Int) :=
  match options key.toList with
  | none => some (options, old)
  | some option =>
    match option.value with
    | .int n =>
      some (Function.update options key.toList (some { option with value := .int dflt }), n)
    | _ => none

/-- The command line has no cache of volumes. -/
def glusterBlockConfSetOptions (cliMode getLogDir : Bool) (st : ConfState) : Option ConfState := do
  let (options, logDir) ← parseCfgStr st.options "GB_LOG_DIR" gbLogdirDef st.cfg.logDir
  if getLogDir then return { options := options, cfg := { st.cfg with logDir := logDir } }
  let (options, logLevel) ← parseCfgStr options "GB_LOG_LEVEL" gbLogLevelDef st.cfg.logLevel
  let (options, lruCount) ←
    if cliMode then some (options, st.cfg.glfsLruCount)
    else parseCfgInt options "GB_GLFS_LRU_COUNT" lruCountDef st.cfg.glfsLruCount
  let (options, cliTimeout) ← parseCfgInt options "GB_CLI_TIMEOUT" cliTimeoutDef st.cfg.cliTimeout
  return { options := options, cfg := ⟨logDir, logLevel, lruCount, cliTimeout⟩ }

/-- A file without a line is taken for one that is being written, and not loaded. -/
def glusterBlockLoadConfig (cliMode getLogDir : Bool) (file : List Char) (st : ConfState) :
    Option ConfState :=
  if file = [] then some st
  else do
    let buf ← glusterBlockReadConfig file
    let options ← parseLines (buf.length + 1) buf st.options
    glusterBlockConfSetOptions cliMode getLogDir { st with options := options }

/-- The first load of a process. It is made for the log directory alone, into a configuration
of its own. -/
def glusterBlockDynConfigGetLogDir (file : List Char) (options : Options) :
    Option (Options × Option (List Char)) :=
  (glusterBlockLoadConfig false true file { ConfState.start with options := options }).map
    (fun st => (st.options, st.cfg.logDir))

/-- The versions of the file that the daemon loads one after the other, behind the one that
it found the log directory in. -/
def loadVersions (first : List Char) (files : List (List Char)) : Option ConfState := do
  let found ← glusterBlockDynConfigGetLogDir first ConfState.start.options
  files.foldlM (fun st file => glusterBlockLoadConfig false false file st)
    { ConfState.start with options := found.1 }

end Load

end GlusterBlock.DynConfig
