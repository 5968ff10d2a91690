import GlusterBlock.BlockCreate
import GlusterBlock.CommandLog
import GlusterBlock.Lib.Fields
import GlusterBlock.Lib.Gather
import GlusterBlock.Lib.Search
import GlusterBlock.Lib.Stores
import Mathlib.Algebra.Order.BigOperators.Group.List
import Mathlib.Algebra.Order.Group.Nat

/-! What a create puts together from the replies of the hosts: the portals of all of them,
and the hosts of the rollback. Both are gathered by a search in the text that is there, so an
address that is part of another one before it is taken for a repetition. -/
namespace GlusterBlock

open Fields (tokens)
open Gather (gather)
open Stores (Store Inside)

section Portals

inductive CreateRespKind where
  | backend
  | iqn
  | tpgNo
  | lunNo
  | ipPort
  | portal
  | failed
  deriving DecidableEq, Repr

def CreateRespKind.all : List CreateRespKind :=
  [backend, iqn, tpgNo, lunNo, ipPort, portal, failed]

def remoteCreateRespLookup : CreateRespKind → Text
  | .backend => "Created user-backed storage object ".toList
  | .iqn => "Created target ".toList
  | .tpgNo => "Created TPG ".toList
  | .lunNo => "Created LUN ".toList
  | .ipPort => "Using default IP port ".toList
  | .portal => "Created network portal ".toList
  | .failed => "failed to configure on ".toList

def blockRemoteCreateRespEnumParse (opt : Text) : Option CreateRespKind :=
  CreateRespKind.all.find? (fun i => decide (remoteCreateRespLookup i <:+: opt))

/-- The text behind the last blank, without a dot at its end. -/
def getLastWordNoDot (line : Text) : Option Text :=
  if ' ' ∈ line then
    let sptr := (line.reverse.takeWhile (· != ' ')).reverse
    some (if sptr.getLast? = some '.' then sptr.dropLast else sptr)
  else none

structure BlockRemoteCreateResp where
  errMsg : Option Text
  backendSize : Option Text
  iqn : Option Text
  portal : List Text
  deriving DecidableEq, Repr

/-- It is part of the other text. -/
def textPart (x y : Text) : Bool := decide (x <:+: y)

/-- One line of a reply. Nothing is done for the lines that are not needed. -/
def respLine (resp : BlockRemoteCreateResp) (line : Text) : BlockRemoteCreateResp :=
  match blockRemoteCreateRespEnumParse line with
  | some .backend =>
    if resp.backendSize = none then { resp with backendSize := getLastWordNoDot line } else resp
  | some .iqn => if resp.iqn = none then { resp with iqn := getLastWordNoDot line } else resp
  | some .portal =>
    match getLastWordNoDot line with
    -- a line of this kind has a blank
    | none => resp
    | some portal =>
      if resp.portal.any (textPart portal) then resp
      else { resp with portal := resp.portal ++ [portal] }
  | some .failed =>
    { resp with errMsg := some (match resp.errMsg with
      | none => line
      | some errMsg => errMsg ++ '\n' :: line) }
  | _ => resp

def blockRemoteCreateRespParse (output : Text) (savereply : Option BlockRemoteCreateResp) :
    BlockRemoteCreateResp :=
  (tokens '\n' output).foldl respLine (savereply.getD ⟨none, none, none, []⟩)

/-- The loop over the replies of the hosts. -/
def collectReplies (outputs : List Text) : Option BlockRemoteCreateResp :=
  outputs.foldl (fun savereply output => some (blockRemoteCreateRespParse output savereply)) none

def collectedPortals (outputs : List Text) : List Text :=
  ((collectReplies outputs).map BlockRemoteCreateResp.portal).getD []

def portalMarker : Text := remoteCreateRespLookup .portal

def portalLine (addr : Text) : Text := portalMarker ++ (addr ++ ":3260.".toList)

/-- A reply whose lines about a portal have the form that `targetcli` gives them. -/
structure CreateReply where
  text : Text
  formed : ∀ line ∈ tokens '\n' text, portalMarker <:+: line →
    ∃ addr, ' ' ∉ addr ∧ line = portalLine addr

/-- The portal on a line. -/
def portalOn (line : Text) : Option Text :=
  if portalMarker <+: line then some (line.drop portalMarker.length).dropLast else none

def CreateReply.portals (r : CreateReply) : List Text := (tokens '\n' r.text).filterMap portalOn

variable {addr : Text}

theorem portalOn_line (addr : Text) : portalOn (portalLine addr) = some (addr ++ ":3260".toList) := by
  have ends : (addr ++ ":3260.".toList).dropLast = addr ++ ":3260".toList := by
    rw [List.dropLast_append_of_ne_nil (by decide)]
    rfl
  unfold portalOn portalLine
  rw [if_pos (List.prefix_append _ _), List.drop_left, ends]

theorem lastWord_portal (plain : ' ' ∉ addr) :
    getLastWordNoDot (portalLine addr) = some (addr ++ ":3260".toList) := by
  have front : portalLine addr =
      "Created network portal".toList ++ ' ' :: (addr ++ ":3260.".toList) := by
    have marker : portalMarker = "Created network portal".toList ++ [' '] := by decide
    unfold portalLine
    rw [marker, List.append_assoc, List.singleton_append]
  have away : ∀ c ∈ (addr ++ ":3260.".toList).reverse, (c != ' ') = true := by
    intro c mem
    rw [bne_iff_ne]
    rintro rfl
    rcases List.mem_append.mp (List.mem_reverse.mp mem) with inside | port
    · exact plain inside
    · exact absurd port (by decide)
  have word : ((portalLine addr).reverse.takeWhile (· != ' ')).reverse = addr ++ ":3260.".toList := by
    rw [front, List.reverse_append, List.reverse_cons, List.append_assoc, List.singleton_append,
      List.takeWhile_append_of_pos away]
    simp
  have last : (addr ++ ":3260.".toList).getLast? = some '.' := by
    rw [List.getLast?_append]
    rfl
  have ends : (addr ++ ":3260.".toList).dropLast = addr ++ ":3260".toList := by
    rw [List.dropLast_append_of_ne_nil (by decide)]
    rfl
  unfold getLastWordNoDot
  rw [if_pos (by rw [front]; simp)]
  dsimp only
  rw [word, if_pos last, ends]

/-- The words in front of a portal are those of a portal only. -/
theorem parse_portal (plain : ' ' ∉ addr) :
    blockRemoteCreateRespEnumParse (portalLine addr) = some .portal := by
  have away : ' ' ∉ addr ++ ":3260.".toList := by
    intro mem
    rcases List.mem_append.mp mem with inside | port
    · exact plain inside
    · exact absurd port (by decide)
  have known : ∀ i, decide (remoteCreateRespLookup i <:+: portalLine addr) =
      decide (remoteCreateRespLookup i <:+: portalMarker) := by
    intro i
    apply decide_eq_decide.mpr
    have last : (remoteCreateRespLookup i).getLast? = some ' ' := by
      cases i <;> decide
    exact Search.infix_front last away
  unfold blockRemoteCreateRespEnumParse
  simp only [known]
  decide

theorem parse_marker {line : Text} (parsed : blockRemoteCreateRespEnumParse line = some .portal) :
    portalMarker <:+: line := by
  have found := List.find?_some parsed
  exact of_decide_eq_true found

/-- A line adds its portal, unless it is part of one that is there. -/
theorem respLine_portal {line : Text} (resp : BlockRemoteCreateResp)
    (formed : portalMarker <:+: line → ∃ addr, ' ' ∉ addr ∧ line = portalLine addr) :
    (respLine resp line).portal =
      match portalOn line with
      | none => resp.portal
      | some p => if resp.portal.any (textPart p) then resp.portal else resp.portal ++ [p] := by
  by_cases marked : portalMarker <:+: line
  · obtain ⟨addr, plain, rfl⟩ := formed marked
    unfold respLine
    rw [parse_portal plain, portalOn_line]
    dsimp only
    rw [lastWord_portal plain]
    dsimp only
    split <;> rfl
  · have off : portalOn line = none := if_neg (fun front => marked front.isInfix)
    rw [off]
    unfold respLine
    cases parsed : blockRemoteCreateRespEnumParse line with
    | none => rfl
    | some i =>
      cases i with
      | portal => exact absurd (parse_marker parsed) marked
      | backend | iqn =>
        dsimp only
        split <;> rfl
      | _ => rfl

/-- The lines of a reply add their portals one after another. -/
theorem lines_portal (lines : List Text) (resp : BlockRemoteCreateResp)
    (formed : ∀ line ∈ lines, portalMarker <:+: line → ∃ addr, ' ' ∉ addr ∧ line = portalLine addr)
    (ps : List Text) (so_far : resp.portal = gather textPart ps) :
    (lines.foldl respLine resp).portal = gather textPart (ps ++ lines.filterMap portalOn) := by
  induction lines generalizing resp ps with
  | nil => rw [List.foldl_nil, List.filterMap_nil, List.append_nil, so_far]
  | cons line lines ih =>
    have rest := fun l mem => formed l (List.mem_cons_of_mem line mem)
    have step := respLine_portal resp (formed line List.mem_cons_self)
    rw [List.foldl_cons]
    cases off : portalOn line with
    | none =>
      rw [off] at step
      rw [List.filterMap_cons_none off]
      exact ih _ rest ps (step.trans so_far)
    | some p =>
      rw [off] at step
      dsimp only at step
      rw [List.filterMap_cons_some off, ← List.singleton_append, ← List.append_assoc]
      apply ih _ rest
      rw [step, Gather.gather_snoc, so_far]

theorem replies_portal (replies : List CreateReply) :
    collectedPortals (replies.map CreateReply.text) =
      gather textPart (replies.flatMap CreateReply.portals) := by
  have run : ∀ (replies : List CreateReply) (saved : Option BlockRemoteCreateResp) (ps : List Text),
      (saved.map BlockRemoteCreateResp.portal).getD [] = gather textPart ps →
      (((replies.map CreateReply.text).foldl
        (fun saved output => some (blockRemoteCreateRespParse output saved)) saved).map
          BlockRemoteCreateResp.portal).getD [] =
        gather textPart (ps ++ replies.flatMap CreateReply.portals) := by
    intro replies
    induction replies with
    | nil =>
      intro saved ps so_far
      rw [List.map_nil, List.foldl_nil, List.flatMap_nil, List.append_nil, so_far]
    | cons r replies ih =>
      intro saved ps so_far
      rw [List.map_cons, List.foldl_cons, List.flatMap_cons, ← List.append_assoc]
      apply ih
      apply lines_portal _ _ r.formed
      rw [← so_far]
      cases saved <;> rfl
  have whole := run replies none [] rfl
  rw [List.nil_append] at whole
  exact whole

theorem textPart_refl (x : Text) : textPart x x = true := decide_eq_true (List.infix_refl x)

/-- The portal list is that of the distinct portals in the order of their first places
exactly when no portal that is new is part of one before it. -/
theorem portals_collected (replies : List CreateReply) :
    collectedPortals (replies.map CreateReply.text) =
        (replies.flatMap CreateReply.portals).eraseDups ↔
      ∀ before p after, replies.flatMap CreateReply.portals = before ++ p :: after →
        (∃ q ∈ before, p <:+: q) → p ∈ before := by
  rw [replies_portal, Gather.gather_firsts textPart_refl]
  simp only [textPart, decide_eq_true_eq]

/-- The reply of a host with this address. -/
def portalReply (addr : Text) (word : ' ' ∉ addr) (line : '\n' ∉ addr) : CreateReply where
  text := portalLine addr
  formed := by
    have single : tokens '\n' (portalLine addr) = [portalLine addr] := by
      have inLine : '\n' ∉ portalLine addr := by
        intro mem
        rcases List.mem_append.mp mem with marker | rest
        · exact absurd marker (by decide)
        · rcases List.mem_append.mp rest with inside | port
          · exact line inside
          · exact absurd port (by decide)
      rw [Fields.tokens_word inLine, if_neg]
      intro empty
      exact absurd (List.append_eq_nil_iff.mp empty).1 (by decide)
    intro l mem _
    rw [single] at mem
    exact ⟨addr, word, List.mem_singleton.mp mem⟩

/-- The portal of 10.0.0.1 is lost behind that of 110.0.0.1. -/
theorem portal_lost :
    let replies := [portalReply "110.0.0.1".toList (by decide) (by decide),
      portalReply "10.0.0.1".toList (by decide) (by decide)]
    collectedPortals (replies.map CreateReply.text) ≠
      (replies.flatMap CreateReply.portals).eraseDups := by
  decide +kernel

end Portals

section Rollback

/-- A text in a buffer, and the stores into it. -/
structure DupText where
  out : Text
  stores : List Store

/-- `GB_STRCAT` to a buffer of this size. -/
def DupText.strcat (d : DupText) (src : Text) (destbytes size : Nat) : DupText :=
  if src.length > destbytes - 1 then d
  else
    { out := d.out ++ src, stores := d.stores ++ Stores.run d.out.length (src.length + 1) size }

def dupElement (len : Nat) (d : DupText) (element : Text) : DupText :=
  if element <:+: d.out then d else (d.strcat element len len).strcat [' '] 2 len

/-- `removeDuplicateSubstr` on the text of the list. -/
def removeDuplicateSubstrText (line : Text) : DupText :=
  let len := line.length + 2
  (tokens ' ' line).foldl (dupElement len) ⟨[], []⟩

/-- The text of a list of words, each with a blank behind it. -/
def spacedWords (words : List Text) : Text := words.flatMap (fun w => w ++ [' '])

theorem spaced_append (us vs : List Text) : spacedWords (us ++ vs) = spacedWords us ++ spacedWords vs :=
  List.flatMap_append

theorem spaced_single (w : Text) : spacedWords [w] = w ++ [' '] := by
  simp [spacedWords]

/-- A word is found in the text exactly when it is part of one of the words. -/
theorem spaced_infix {w : Text} (some : w ≠ []) (plain : ' ' ∉ w) (words : List Text) :
    w <:+: spacedWords words ↔ words.any (textPart w) = true := by
  induction words with
  | nil => simp [spacedWords, some]
  | cons v words ih =>
    have front : spacedWords (v :: words) = v ++ ' ' :: spacedWords words := by
      simp [spacedWords]
    rw [front, Search.infix_apart plain some, ih, List.any_cons, Bool.or_eq_true, textPart,
      decide_eq_true_eq]

theorem spaced_injective {us vs : List Text} (left : ∀ w ∈ us, w ≠ [] ∧ ' ' ∉ w)
    (right : ∀ w ∈ vs, w ≠ [] ∧ ' ' ∉ w) (same : spacedWords us = spacedWords vs) : us = vs := by
  have words : ∀ ws : List Text, (∀ w ∈ ws, w ≠ [] ∧ ' ' ∉ w) →
      tokens ' ' (spacedWords ws) = ws := by
    intro ws
    induction ws with
    | nil => exact fun _ => rfl
    | cons w ws ih =>
      intro plain
      have front : spacedWords (w :: ws) = w ++ ' ' :: spacedWords ws := by simp [spacedWords]
      obtain ⟨some, inside⟩ := plain w List.mem_cons_self
      rw [front, Fields.tokens_cons inside some,
        ih (fun v mem => plain v (List.mem_cons_of_mem w mem))]
  rw [← words us left, same, words vs right]

theorem spaced_length (words : List Text) :
    (spacedWords words).length = (words.map (fun w => w.length + 1)).sum := by
  induction words with
  | nil => rfl
  | cons w words ih =>
    have front : spacedWords (w :: words) = w ++ ' ' :: spacedWords words := by simp [spacedWords]
    rw [front, List.map_cons, List.sum_cons, List.length_append, List.length_cons, ih]
    omega

/-- The tokens and the blanks between them are no longer than the text. -/
theorem words_room (line : Text) :
    ((tokens ' ' line).map (fun w => w.length + 1)).sum ≤ line.length + 1 := by
  have fields : ∀ s : Text, ((s.splitOn ' ').map (fun w => w.length + 1)).sum = s.length + 1 := by
    intro s
    induction s with
    | nil => rfl
    | cons c s ih =>
      obtain ⟨first, rest, split⟩ := Fields.splitOn_eq_cons ' ' s
      rw [Fields.splitOn_cons]
      rw [split] at ih ⊢
      simp only [List.map_cons, List.sum_cons] at ih
      split
      · simp only [List.map_cons, List.sum_cons, List.length_nil, List.length_cons]
        omega
      · simp only [List.modifyHead_cons, List.map_cons, List.sum_cons, List.length_cons]
        omega
  rw [← fields line, Fields.tokens_eq]
  exact (List.filter_sublist.map _).sum_le_sum (fun _ _ => Nat.zero_le _)

/-- A word that is put down fits with its blank, when all words so far fit. -/
theorem element_put {len : Nat} {d : DupText} {element : Text} (inside : Inside d.stores)
    (room : d.out.length + element.length + 1 < len) (new : ¬ element <:+: d.out) :
    Inside (dupElement len d element).stores ∧
      (dupElement len d element).out = d.out ++ (element ++ [' ']) := by
  have fits : ¬ element.length > len - 1 := by omega
  have blank : ¬ [' '].length > 2 - 1 := by decide
  unfold dupElement DupText.strcat
  rw [if_neg new, if_neg fits, if_neg blank]
  dsimp only
  rw [Stores.inside_append, Stores.inside_append, Stores.inside_run, List.append_assoc]
  refine ⟨⟨⟨inside, by omega⟩, ?_⟩, rfl⟩
  rw [List.length_append]
  exact Stores.inside_run.mpr (by omega)

/-- The words are gathered, and all of them fit when they fit with their blanks. -/
theorem elements_gathered {len : Nat} (words : List Text)
    (plain : ∀ w ∈ words, w ≠ [] ∧ ' ' ∉ w)
    (room : (words.map (fun w => w.length + 1)).sum < len) :
    Inside (words.foldl (dupElement len) ⟨[], []⟩).stores ∧
      (words.foldl (dupElement len) ⟨[], []⟩).out = spacedWords (gather textPart words) := by
  induction words using List.reverseRecOn with
  | nil => exact ⟨Stores.inside_nil, rfl⟩
  | append_singleton words w ih =>
    rw [List.map_append, List.sum_append, List.map_singleton, List.sum_singleton] at room
    obtain ⟨inside, out⟩ := ih (fun v mem => plain v (List.mem_append_left _ mem)) (by omega)
    obtain ⟨some, word⟩ := plain w (by simp)
    have short : (spacedWords (gather textPart words)).length ≤
        (words.map (fun w => w.length + 1)).sum := by
      rw [spaced_length]
      exact ((Gather.gather_sublist textPart words).map _).sum_le_sum (fun _ _ => Nat.zero_le _)
    have found := spaced_infix some word (gather textPart words)
    rw [List.foldl_concat, Gather.gather_snoc]
    rw [← out] at short found
    split
    · rename_i held
      have same : dupElement len (words.foldl (dupElement len) ⟨[], []⟩) w =
          words.foldl (dupElement len) ⟨[], []⟩ := if_pos (found.mpr held)
      rw [same]
      exact ⟨inside, out⟩
    · rename_i free
      have fits : (words.foldl (dupElement len) ⟨[], []⟩).out.length + w.length + 1 < len := by
        omega
      obtain ⟨stores, text⟩ := element_put inside fits (fun there => free (found.mp there))
      refine ⟨stores, ?_⟩
      rw [text, out, spaced_append, spaced_single]

theorem hosts_gathered (line : Text) : Inside (removeDuplicateSubstrText line).stores ∧
    (removeDuplicateSubstrText line).out = spacedWords (gather textPart (tokens ' ' line)) := by
  have bound : ((tokens ' ' line).map (fun w => w.length + 1)).sum ≤ line.length + 1 :=
    words_room line
  exact elements_gathered _ (fun _ => Fields.token_clean) (Nat.lt_succ_of_le bound)

/-- The hosts of a list, each behind a blank, as the list of them in the report. -/
theorem removeDuplicateSubstr_text (addrs : List Addr)
    (plain : ∀ a ∈ addrs, a.toList ≠ [] ∧ ' ' ∉ a.toList) :
    (removeDuplicateSubstrText (addrs.flatMap (fun a => ' ' :: a.toList))).out =
      spacedWords ((removeDuplicateSubstr addrs).map String.toList) := by
  have words : tokens ' ' (addrs.flatMap (fun a => ' ' :: a.toList)) =
      addrs.map String.toList := by
    induction addrs with
    | nil => rfl
    | cons a addrs ih =>
      obtain ⟨some, inside⟩ := plain a List.mem_cons_self
      rw [List.flatMap_cons, List.cons_append, Fields.tokens_delim, List.map_cons]
      cases addrs with
      | nil => rw [List.flatMap_nil, List.append_nil, Fields.tokens_word inside, if_neg some]; rfl
      | cons b addrs =>
        rw [← ih (fun c mem => plain c (List.mem_cons_of_mem a mem)), List.flatMap_cons,
          List.cons_append, Fields.tokens_cons inside some, Fields.tokens_delim]
  have same : gather textPart (addrs.map String.toList) =
      (removeDuplicateSubstr addrs).map String.toList := by
    clear plain words
    induction addrs using List.reverseRecOn with
    | nil => rfl
    | append_singleton addrs a ih =>
      rw [List.map_append, List.map_singleton, Gather.gather_snoc, ih]
      by_cases met : ∃ b ∈ removeDuplicateSubstr addrs, a.toList <:+: b.toList
      · have stays : removeDuplicateSubstr (addrs ++ [a]) = removeDuplicateSubstr addrs := by
          unfold removeDuplicateSubstr
          rw [List.foldl_concat]
          exact if_pos (List.any_eq_true.mpr
            (met.imp (fun b both => ⟨both.1, by simpa using both.2⟩)))
        rw [stays, if_pos]
        simpa [textPart] using met
      · have grows : removeDuplicateSubstr (addrs ++ [a]) = removeDuplicateSubstr addrs ++ [a] := by
          unfold removeDuplicateSubstr
          rw [List.foldl_concat]
          apply if_neg
          intro any
          obtain ⟨b, mem, part⟩ := List.any_eq_true.mp any
          exact met ⟨b, mem, by simpa using part⟩
        rw [grows, if_neg, List.map_append, List.map_singleton]
        simpa [textPart] using met
  rw [(hosts_gathered _).2, words, same]

/-- All stores are into the buffer. The text is that of the distinct addresses in the order
of their first places exactly when no address that is new is part of one before it. -/
theorem rollback_hosts (line : Text) :
    (Inside (removeDuplicateSubstrText line).stores ∧
      (removeDuplicateSubstrText line).out = spacedWords (tokens ' ' line).eraseDups) ↔
      ∀ before w after, tokens ' ' line = before ++ w :: after →
        (∃ v ∈ before, w <:+: v) → w ∈ before := by
  obtain ⟨inside, out⟩ := hosts_gathered line
  have firsts := Gather.gather_firsts textPart_refl (tokens ' ' line)
  simp only [textPart, decide_eq_true_eq] at firsts
  rw [← firsts, out]
  have plain : ∀ w ∈ tokens ' ' line, w ≠ [] ∧ ' ' ∉ w := fun _ => Fields.token_clean
  have kept : ∀ w ∈ gather textPart (tokens ' ' line), w ≠ [] ∧ ' ' ∉ w :=
    fun w mem => plain w ((Gather.gather_sublist textPart _).subset mem)
  have distinct : ∀ w ∈ (tokens ' ' line).eraseDups, w ≠ [] ∧ ' ' ∉ w :=
    fun w mem => plain w (List.mem_eraseDups.mp mem)
  constructor
  · rintro ⟨_, same⟩
    exact spaced_injective kept distinct same
  · intro same
    exact ⟨inside, congrArg spacedWords same⟩

/-- The host 10.0.0.1 is lost behind 110.0.0.1. -/
theorem rollback_host_lost :
    ¬ (Inside (removeDuplicateSubstrText "110.0.0.1 10.0.0.1".toList).stores ∧
      (removeDuplicateSubstrText "110.0.0.1 10.0.0.1".toList).out =
        spacedWords (tokens ' ' "110.0.0.1 10.0.0.1".toList).eraseDups) := by
  decide +kernel

end Rollback

end GlusterBlock
