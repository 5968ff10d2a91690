import GlusterBlock.CommandLog
import GlusterBlock.MetaReader

/-! What the command log shows of two runs that differ only in their passwords. The mask
finds the first marker of the text, so it hides the password unless a name has the marker
in it; the reply of a `genconfig` is not masked. -/
namespace GlusterBlock

open Masking Json

section Chars

/-- A character that JSON leaves as it is. -/
def isWord (c : Char) : Bool := c.isAlphanum || c ∈ ['-', '_', '.', ':', ' ']

theorem alphanum_range {c : Char} (h : c.isAlphanum = true) :
    48 ≤ c.toNat ∧ c.toNat ≤ 57 ∨ 65 ≤ c.toNat ∧ c.toNat ≤ 90 ∨ 97 ≤ c.toNat ∧ c.toNat ≤ 122 := by
  have parts : (c.isAlpha || c.isDigit) = true := h
  rcases Bool.or_eq_true_iff.mp parts with alpha | digit
  · exact Or.inr (CText.alpha_range alpha)
  · exact Or.inl (CText.digit_range digit)

theorem word_visible {c : Char} (word : isWord c = true) : 32 ≤ c.toNat := by
  simp only [isWord, Bool.or_eq_true, decide_eq_true_eq] at word
  rcases word with letter | other
  · have range := alphanum_range letter
    omega
  · simp only [List.mem_cons, List.not_mem_nil, or_false] at other
    rcases other with rfl | rfl | rfl | rfl | rfl <;> decide

theorem word_plain {c : Char} (word : isWord c = true) : escapeChar c = [c] := by
  have visible := word_visible word
  unfold escapeChar
  split
  · exact absurd word (by decide)
  · exact absurd word (by decide)
  · exact absurd word (by decide)
  · exact absurd word (by decide)
  · exact absurd word (by decide)
  · exact absurd word (by decide)
  · exact if_neg (by omega)

theorem hex_alphanum {c : Char} (hex : isHex c = true) : c.isAlphanum = true := by
  simp only [isHex, Bool.or_eq_true, Bool.and_eq_true, decide_eq_true_eq] at hex
  rcases hex with digit | ⟨low, high⟩
  · exact Bool.or_eq_true_iff.mpr (.inr digit)
  · have lower : (decide ('a' ≤ c) && decide (c ≤ 'z')) = true :=
      Bool.and_eq_true_iff.mpr
        ⟨decide_eq_true low, decide_eq_true (UInt32.le_trans high (by decide))⟩
    exact Bool.or_eq_true_iff.mpr (.inl (Bool.or_eq_true_iff.mpr (.inr lower)))

theorem uuid_char {s : String} (uuid : isUuid s = true) {c : Char} (hc : c ∈ s.toList) :
    isHex c = true ∨ c = '-' := by
  simp only [isUuid, Bool.and_eq_true, List.all_eq_true] at uuid
  obtain ⟨i, here⟩ := List.getElem?_of_mem hc
  have entry := uuid.2 (c, i) (List.mk_mem_zipIdx_iff_getElem?.mpr here)
  dsimp only at entry
  split at entry
  · exact .inr (by simpa using entry)
  · exact .inl entry

theorem uuid_word {s : String} (uuid : isUuid s = true) : ∀ c ∈ s.toList, isWord c = true := by
  intro c hc
  rcases uuid_char uuid hc with hex | rfl
  · simp [isWord, hex_alphanum hex]
  · decide

theorem uuid_passes {s : String} (uuid : isUuid s = true) :
    ∀ c ∈ s.toList, passwordMask.stop c = false := by
  intro c hc
  by_contra stops
  have mark : (c == ',' || c == '\n') = true := Bool.of_not_eq_false stops
  simp only [Bool.or_eq_true, beq_iff_eq] at mark
  rcases mark with rfl | rfl <;> exact absurd (uuid_word uuid _ hc) (by decide)

theorem uuid_length {s : String} (uuid : isUuid s = true) : s.toList.length = 36 := by
  simp only [isUuid, Bool.and_eq_true, beq_iff_eq] at uuid
  exact uuid.1

theorem uuid_stars {s : String} (uuid : isUuid s = true) :
    s.toList.map maskChar = List.replicate 36 '*' := by
  refine List.eq_replicate_iff.mpr ⟨by rw [List.length_map, uuid_length uuid], fun d hd => ?_⟩
  obtain ⟨c, hc, rfl⟩ := List.mem_map.mp hd
  rcases uuid_char uuid hc with hex | rfl
  · exact if_pos (by rw [hex_alphanum hex]; rfl)
  · decide

theorem uuid_masked {s t : String} (first : isUuid s = true) (second : isUuid t = true) :
    s.toList.map passwordMask.hide = t.toList.map passwordMask.hide :=
  (uuid_stars first).trans (uuid_stars second).symm

theorem words_plain {s : String} (words : ∀ c ∈ s.toList, isWord c = true) : Plain s :=
  fun c hc => word_plain (words c hc)

end Chars

section Free

abbrev Unmarked (t : Text) : Prop := passwordMask.Free t

theorem unmarked_of_no_w {t : Text} (none : 'W' ∉ t) : Unmarked t :=
  passwordMask.free_of_missing (by decide) none

theorem uuid_no_w {s : String} (uuid : isUuid s = true) : 'W' ∉ s.toList := by
  intro hw
  rcases uuid_char uuid hw with hex | dash <;> exact absurd ‹_› (by decide)

theorem number_no_w (n : Nat) : 'W' ∉ (toString n).toList := by
  intro hw
  rw [Nat.toString_eq_repr, Nat.toList_repr] at hw
  exact absurd (CText.digits_isDigit hw) (by decide)

theorem number_word (n : Nat) : ∀ c ∈ (toString n).toList, isWord c = true := by
  intro c hc
  rw [Nat.toString_eq_repr, Nat.toList_repr] at hc
  simp [isWord, Char.isAlphanum, CText.digits_isDigit hc]

/-- The size is written in digits and in the letters of its unit. -/
theorem size_chars (n : Nat) :
    ∀ c ∈ (glusterBlockFormatSize n).toList, isWord c = true ∧ c ≠ 'W' := by
  have number : ∀ n : Nat, ∀ c ∈ (toString n).toList, isWord c = true ∧ c ≠ 'W' :=
    fun n c hc => ⟨number_word n c hc, fun w => number_no_w n (w ▸ hc)⟩
  have units : ∀ (fuel bytes rem : Nat) (units : List String),
      (∀ u ∈ units, ∀ c ∈ u.toList, isWord c = true ∧ c ≠ 'W') →
        ∀ c ∈ (sizeUnits fuel bytes rem units).toList, isWord c = true ∧ c ≠ 'W' := by
    intro fuel
    induction fuel with
    | zero => exact fun bytes _ _ _ => number bytes
    | succ fuel ih =>
      intro bytes rem units ok c hc
      unfold sizeUnits at hc
      split at hc
      · exact ih _ _ _ (fun u hu => ok u (List.mem_of_mem_tail hu)) c hc
      · dsimp only at hc
        simp only [String.toList_append, List.mem_append] at hc
        rcases hc with (((hc | hc) | hc) | hc) | hc
        · exact number _ c hc
        · obtain rfl : c = '.' := by simpa using hc
          decide
        · exact number _ c hc
        · obtain rfl : c = ' ' := by simpa using hc
          decide
        · cases units with
          | nil => cases hc
          | cons u units => exact ok u List.mem_cons_self c hc
  have letters : (["B", "KiB", "MiB", "GiB", "TiB", "PiB", "EiB", "ZiB", "YiB"].all fun u =>
      u.toList.all fun c => isWord c && c != 'W') = true := by decide
  simp only [List.all_eq_true, Bool.and_eq_true, bne_iff_ne] at letters
  exact units 9 n 0 _ letters

theorem unmarked_blank {t : Text} (blank : ∀ c ∈ t, IsBlank c) : Unmarked t := by
  refine unmarked_of_no_w (fun hw => ?_)
  rcases blank 'W' hw with h | h | h <;> cases h

theorem unmarked_quote {blank rest : Text} {s : String} (blanks : ∀ c ∈ blank, IsBlank c)
    (words : ∀ c ∈ s.toList, isWord c = true) (free : Unmarked s.toList) (after : Unmarked rest) :
    Unmarked (blank ++ (quote s ++ rest)) := by
  have other : '"' ∉ passwordMask.marker := by decide
  rw [quote_plain (words_plain words), List.cons_append, List.append_assoc]
  exact passwordMask.free_sep other (unmarked_blank blanks)
    (passwordMask.free_sep other free after)

/-- A key and a value that both are words without the marker. -/
structure Clean (f : String × Json.Value) : Prop where
  words : ∀ c ∈ f.1.toList, isWord c = true
  key : Unmarked f.1.toList
  value : ∀ (L : Layout) level blank rest, (∀ c ∈ blank, IsBlank c) → Unmarked rest →
    Unmarked (blank ++ (f.2 L level ++ ',' :: rest))

theorem clean_str {key s : String} (keyWords : ∀ c ∈ key.toList, isWord c = true)
    (keyFree : Unmarked key.toList) (words : ∀ c ∈ s.toList, isWord c = true)
    (free : Unmarked s.toList) : Clean (key, Json.str s) := by
  refine ⟨keyWords, keyFree, fun L level blank rest blanks after => ?_⟩
  exact unmarked_quote blanks words free
    (passwordMask.free_sep (x := []) (by decide) passwordMask.free_nil after)

theorem clean_int {key : String} (keyWords : ∀ c ∈ key.toList, isWord c = true)
    (keyFree : Unmarked key.toList) (n : Nat) : Clean (key, Json.int n) := by
  refine ⟨keyWords, keyFree, fun L level blank rest blanks after => ?_⟩
  rw [← List.append_assoc]
  refine passwordMask.free_sep (by decide) (unmarked_of_no_w ?_) after
  intro hw
  rcases List.mem_append.mp hw with h | h
  · rcases blanks 'W' h with h | h | h <;> cases h
  · exact number_no_w n h

theorem unmarked_front {L : Layout} {fields : List (String × Json.Value)}
    (clean : ∀ f ∈ fields, Clean f) {rest : Text} (after : Unmarked rest) :
    Unmarked (front L 0 (fields.map (Json.member L 1)) ++ rest) := by
  have blank : ∀ c ∈ L.member 1, IsBlank c := fun c hc => L.blank 1 c (by simp [hc])
  have colon : ∀ c ∈ L.colon, IsBlank c := fun c hc => .inl (L.inline c hc)
  induction fields with
  | nil => exact after
  | cons f fields ih =>
    have first := clean f List.mem_cons_self
    have others := ih (fun g hg => clean g (List.mem_cons_of_mem _ hg))
    have shown : front L 0 ((f :: fields).map (Json.member L 1)) ++ rest =
        L.member 1 ++ (quote f.1 ++ ':' :: (L.colon ++ (f.2 L 1 ++
          ',' :: (front L 0 (fields.map (Json.member L 1)) ++ rest)))) := by
      simp [front, Json.member]
    rw [shown]
    exact unmarked_quote blank first.words first.key (passwordMask.free_sep (x := []) (by decide)
      passwordMask.free_nil (first.value L 1 L.colon _ colon others))

end Free

section Layouts

variable {p q : String} {L : Layout} {before after : List (String × Json.Value)}

/-- The text of an object up to the name of the password. -/
def lead (L : Layout) (before : List (String × Json.Value)) : Text :=
  '{' :: (front L 0 (before.map (Json.member L 1)) ++ (L.member 1 ++ ['"']))

/-- The text of an object behind the password. -/
def trail (L : Layout) (after : List (String × Json.Value)) : Text :=
  '"' :: (more L 0 (after.map (Json.member L 1)) ++ ['}'])

theorem obj_secret (plain : Plain p) :
    Json.obj (before ++ ("PASSWORD", Json.str p) :: after) L 0 =
      lead L before ++ (passwordMask.marker ++ (['"'] ++ ':' :: ((L.colon ++ ['"']) ++
        (p.toList ++ trail L after)))) := by
  have key : quote "PASSWORD" = '"' :: (passwordMask.marker ++ ['"']) := by decide
  have value : Json.str p L 1 = '"' :: (p.toList ++ ['"']) := quote_plain plain
  unfold Json.obj
  rw [List.map_append, List.map_cons, body_split]
  have member : Json.member L (0 + 1) ("PASSWORD", Json.str p) =
      '"' :: (passwordMask.marker ++ ('"' :: ':' :: (L.colon ++ '"' :: (p.toList ++ ['"'])))) := by
    unfold Json.member
    rw [key]
    change _ ++ ':' :: (L.colon ++ Json.str p L 1) = _
    rw [value]
    simp
  rw [member]
  simp [lead, trail]

/-- The password of an object without a marker before it is hidden. -/
theorem obj_hides (first : isUuid p = true) (second : isUuid q = true)
    (clean : ∀ f ∈ before, Clean f) (after : List (String × Json.Value)) (rest : Text) :
    gbClipoffSensitiveDetails
        (Json.obj (before ++ ("PASSWORD", Json.str p) :: after) L 0 ++ rest) =
      gbClipoffSensitiveDetails
        (Json.obj (before ++ ("PASSWORD", Json.str q) :: after) L 0 ++ rest) := by
  have blank : ∀ c ∈ L.member 1, IsBlank c := fun c hc => L.blank 1 c (by simp [hc])
  have between : ∀ c ∈ L.colon ++ ['"'], passwordMask.stop c = false := by
    intro c hc
    rcases List.mem_append.mp hc with space | mark
    · rw [L.inline c space]
      decide
    · rw [List.mem_singleton.mp mark]
      decide
  have free : Unmarked (lead L before) := by
    refine passwordMask.free_sep (x := []) (by decide) passwordMask.free_nil (unmarked_front clean ?_)
    exact passwordMask.free_sep (by decide) (unmarked_blank blank) passwordMask.free_nil
  rw [obj_secret (words_plain (uuid_word first)), obj_secret (words_plain (uuid_word second))]
  have hides := passwordMask.clip_hides (b := ['"']) (r := trail L after ++ rest) free (by decide)
    between (uuid_passes first) (uuid_passes second) (uuid_masked first second)
  have sep : passwordMask.sep = ':' := rfl
  rw [sep] at hides
  simpa [gbClipoffSensitiveDetails] using hides

theorem front_contains {fields : List (String × Json.Value)} {f : String × Json.Value} {t : Text}
    (field : f ∈ fields) (inside : t <:+: f.2 L 1) :
    t <:+: front L 0 (fields.map (Json.member L 1)) := by
  obtain ⟨s, r, rfl⟩ := List.append_of_mem field
  have shown : front L 0 ((s ++ f :: r).map (Json.member L 1)) =
      front L 0 (s.map (Json.member L 1)) ++ (L.member 1 ++ (quote f.1 ++ ':' :: L.colon)) ++ f.2 L 1 ++
        (',' :: front L 0 (r.map (Json.member L 1))) := by
    simp [front, Json.member]
  rw [shown]
  exact inside.trans ⟨_, _, rfl⟩

/-- A marker in front of a separator that closes lets the password through. -/
theorem leaks {x y z : Text} (occurs : passwordMask.marker <:+: x) (closes : passwordMask.Closes y)
    (length : p.toList.length = q.toList.length)
    (same : gbClipoffSensitiveDetails (x ++ (y ++ (p.toList ++ z))) =
      gbClipoffSensitiveDetails (x ++ (y ++ (q.toList ++ z)))) : p = q := by
  unfold gbClipoffSensitiveDetails at same
  rw [passwordMask.clip_closed occurs closes, passwordMask.clip_closed occurs closes] at same
  exact String.toList_injective (List.append_inj_left (List.append_cancel_left same) length)

end Layouts

section Replies

variable (json : JsonResponseFormat → Layout)

theorem plain_hides {p q : String} {a : Text} (free : Unmarked a) (first : isUuid p = true)
    (second : isUuid q = true) (rest : Text) :
    gbClipoffSensitiveDetails (a ++ ("PASSWORD: ".toList ++ (p.toList ++ rest))) =
      gbClipoffSensitiveDetails (a ++ ("PASSWORD: ".toList ++ (q.toList ++ rest))) := by
  have hides := passwordMask.clip_hides (b := []) (l := [' ']) (r := rest) free (by decide)
    (CText.forall_of_all (by decide)) (uuid_passes first) (uuid_passes second) (uuid_masked first second)
  exact hides

def iqnOf (gbid : String) : String := gbTgcliIqnPrefix ++ gbid

theorem iqn_chars {gbid : String} (uuid : isUuid gbid = true) :
    ∀ c ∈ (iqnOf gbid).toList, isWord c = true ∧ c ≠ 'W' := by
  intro c hc
  have fixed : ∀ c ∈ gbTgcliIqnPrefix.toList, isWord c = true ∧ c ≠ 'W' :=
    CText.forall_of_all (by decide)
  rw [iqnOf, String.toList_append] at hc
  rcases List.mem_append.mp hc with start | rest
  · exact fixed c start
  · exact ⟨uuid_word uuid c rest, fun w => uuid_no_w uuid (w ▸ rest)⟩

theorem login_clean {gbid : String} (uuid : isUuid gbid = true) :
    ∀ f ∈ [("IQN", Json.str (iqnOf gbid)), ("USERNAME", Json.str gbid)], Clean f := by
  have iqn := iqn_chars uuid
  intro f hf
  rcases List.mem_pair.mp hf with rfl | rfl
  · exact clean_str (CText.forall_of_all (by decide)) (unmarked_of_no_w (by decide)) (fun c hc => (iqn c hc).1)
      (unmarked_of_no_w (fun hw => (iqn _ hw).2 rfl))
  · exact clean_str (CText.forall_of_all (by decide)) (unmarked_of_no_w (by decide)) (uuid_word uuid)
      (unmarked_of_no_w (uuid_no_w uuid))

theorem login_unmarked {gbid : String} (uuid : isUuid gbid = true) :
    Unmarked ("IQN: ".toList ++ (iqnOf gbid).toList ++ ['\n'] ++ "USERNAME: ".toList ++ gbid.toList ++
      ['\n']) := by
  refine unmarked_of_no_w (fun hw => ?_)
  simp only [List.mem_append] at hw
  rcases hw with ((((h | h) | h) | h) | h) | h
  · exact absurd h (by decide)
  · exact (iqn_chars uuid _ h).2 rfl
  · exact absurd h (by decide)
  · exact absurd h (by decide)
  · exact uuid_no_w uuid h
  · exact absurd h (by decide)

theorem login_hides {gbid p q : String} (uuid : isUuid gbid = true) (first : isUuid p = true)
    (second : isUuid q = true) (rest : Text) :
    gbClipoffSensitiveDetails ("IQN: ".toList ++ ((iqnOf gbid).toList ++ (['\n'] ++
        (loginText gbid p ++ rest)))) =
      gbClipoffSensitiveDetails ("IQN: ".toList ++ ((iqnOf gbid).toList ++ (['\n'] ++
        (loginText gbid q ++ rest)))) := by
  have key : "\nPASSWORD: ".toList = ['\n'] ++ "PASSWORD: ".toList := by decide
  have hides := plain_hides (login_unmarked uuid) first second (['\n'] ++ rest)
  unfold loginText
  rw [key]
  simpa only [List.append_assoc] using hides

theorem create_hides (blk : BlockCreateCli) {gbid p q : String} (uuid : isUuid gbid = true)
    (first : isUuid p = true) (second : isUuid q = true) {resp : RemoteCreateResp}
    (target : ∀ iqn, resp.iqn = some iqn → iqn = iqnOf gbid) (r : BlockResponse) :
    gbClipoffSensitiveDetails (createText json blk gbid p resp r) =
      gbClipoffSensitiveDetails (createText json blk gbid q resp r) := by
  unfold createText
  split
  · rename_i failed attempt done success _
    cases auth : blk.authMode with
    | false => rfl
    | true =>
      cases iqn : resp.iqn with
      | none => rfl
      | some name =>
        obtain rfl := target name iqn
        let lists := [("PORTAL(S)", Json.arr (resp.portals.map Json.str))] ++
          listField failed attempt ++ listField done success ++
          [("RESULT", Json.str (resultText r.result))]
        split
        · exact obj_hides first second (login_clean uuid) lists ['\n']
        · have hides := login_hides uuid first second ("PORTAL(S): ".toList ++
            ((if resp.portals = [] then ['-'] else spaced resp.portals) ++ (['\n'] ++
              (listText failed attempt ++ (listText done success ++
                ("RESULT: ".toList ++ ((resultText r.result).toList ++ ['\n'])))))))
          simp only [List.append_assoc]
          exact hides
  · rfl

theorem modify_hides (blk : BlockModifyCli) {gbid p q : String} (uuid : isUuid gbid = true)
    (first : isUuid p = true) (second : isUuid q = true) (r : BlockResponse) :
    gbClipoffSensitiveDetails (modifyText json blk gbid p r) =
      gbClipoffSensitiveDetails (modifyText json blk gbid q r) := by
  unfold modifyText
  split
  · rfl
  · dsimp only
    cases login : decide (r.exit = 0) && blk.authMode with
    | false => rfl
    | true =>
      split
      · exact obj_hides first second (login_clean uuid)
          (r.lists.flatMap (fun l => listField l.1 l.2) ++
            [("RESULT", Json.str (resultText r.result))]) ['\n']
      · have hides := login_hides uuid first second (r.lists.flatMap (fun l => listText l.1 l.2) ++
          ("RESULT: ".toList ++ ((resultText r.result).toList ++ ['\n'])))
        simp only [List.append_assoc]
        exact hides

theorem name_words {name : String} (acceptable : glusterBlockIsNameAcceptable name = true) :
    ∀ c ∈ name.toList, isWord c = true := by
  intro c hc
  simp only [glusterBlockIsNameAcceptable, nameChar, Bool.and_eq_true, List.all_eq_true] at acceptable
  have kind := acceptable.2 c hc
  simp only [Bool.or_eq_true, beq_iff_eq] at kind
  rcases kind with (letter | rfl) | rfl
  · simp [isWord, letter]
  · decide
  · decide

variable (blk : BlockInfoCli) (info : MetaInfo)

/-- The fields of an info in front of its group id, and those up to its password. -/
def infoNames : List (String × Json.Value) :=
  [("NAME", Json.str blk.blockName), ("VOLUME", Json.str info.volume)]

def infoData : List (String × Json.Value) :=
  [("GBID", Json.str info.gbid), ("SIZE", Json.str (glusterBlockFormatSize info.size)),
   ("HA", Json.int info.mpath), ("IOTIMEOUT", Json.str (toString info.ioTimeout ++ " Seconds"))]

theorem infoFields_eq (p : String) : infoFields blk { info with passwd := p } =
    (infoNames blk info ++ infoData info) ++ [("PASSWORD", Json.str p)] := rfl

theorem timeout_chars (n : Nat) :
    ∀ c ∈ (toString n ++ " Seconds").toList, isWord c = true ∧ c ≠ 'W' := by
  intro c hc
  have letters : ∀ c ∈ " Seconds".toList, isWord c = true ∧ c ≠ 'W' :=
    CText.forall_of_all (by decide)
  rw [String.toList_append] at hc
  rcases List.mem_append.mp hc with digit | unit
  · exact ⟨number_word n c digit, fun w => number_no_w n (w ▸ digit)⟩
  · exact letters c unit

theorem infoData_clean (uuid : isUuid info.gbid = true) : ∀ f ∈ infoData info, Clean f := by
  have word : ∀ {key s : String}, (∀ c ∈ key.toList, isWord c = true ∧ c ≠ 'W') →
      (∀ c ∈ s.toList, isWord c = true ∧ c ≠ 'W') → Clean (key, Json.str s) := by
    intro key s keyChars chars
    exact clean_str (fun c hc => (keyChars c hc).1)
      (unmarked_of_no_w (fun hw => (keyChars _ hw).2 rfl)) (fun c hc => (chars c hc).1)
      (unmarked_of_no_w (fun hw => (chars _ hw).2 rfl))
  intro f hf
  simp only [infoData, List.mem_cons, List.not_mem_nil, or_false] at hf
  rcases hf with rfl | rfl | rfl | rfl
  · exact word (CText.forall_of_all (by decide)) (fun c hc => ⟨uuid_word uuid c hc, fun w => uuid_no_w uuid (w ▸ hc)⟩)
  · exact word (CText.forall_of_all (by decide)) (size_chars info.size)
  · exact clean_int (CText.forall_of_all (by decide)) (unmarked_of_no_w (by decide)) info.mpath
  · exact word (CText.forall_of_all (by decide)) (timeout_chars info.ioTimeout)

theorem infoNames_clean (block : glusterBlockIsNameAcceptable blk.blockName = true)
    (volume : glusterBlockIsNameAcceptable info.volume = true) (blockFree : Unmarked blk.blockName.toList)
    (volumeFree : Unmarked info.volume.toList) : ∀ f ∈ infoNames blk info, Clean f := by
  intro f hf
  rcases List.mem_pair.mp hf with rfl | rfl
  · exact clean_str (CText.forall_of_all (by decide)) (unmarked_of_no_w (by decide)) (name_words block) blockFree
  · exact clean_str (CText.forall_of_all (by decide)) (unmarked_of_no_w (by decide)) (name_words volume) volumeFree

/-- The first two lines. -/
def namesText : Text :=
  "NAME: ".toList ++ blk.blockName.toList ++ "\nVOLUME: ".toList ++ info.volume.toList

def dataText : Text :=
  "\nGBID: ".toList ++ info.gbid.toList ++
    "\nSIZE: ".toList ++ (glusterBlockFormatSize info.size).toList ++
    "\nHA: ".toList ++ (toString info.mpath).toList ++
    "\nIOTIMEOUT: ".toList ++ (toString info.ioTimeout ++ " Seconds").toList ++ ['\n']

theorem infoText_plain (plain : blk.jsonResp.given = false) (p : String) :
    infoText json blk { info with passwd := p } =
      namesText blk info ++ ((dataText info ++ "PASSWORD: ".toList) ++
        (p.toList ++ infoTailText info)) := by
  have key : "\nPASSWORD: ".toList = ['\n'] ++ "PASSWORD: ".toList := by decide
  unfold infoText namesText dataText
  rw [plain, key]
  simp only [Bool.false_eq_true, if_false, String.toList_append, List.append_assoc]
  rfl

theorem infoText_json (given : blk.jsonResp.given = true) (p : String) :
    infoText json blk { info with passwd := p } =
      Json.obj ((infoNames blk info ++ infoData info) ++ ("PASSWORD", Json.str p) ::
        infoTail info) (json blk.jsonResp) 0 ++ ['\n'] := by
  unfold infoText jsonText
  rw [given, infoFields_eq, List.append_assoc]
  rfl

theorem dataText_no_w (uuid : isUuid info.gbid = true) : 'W' ∉ dataText info := by
  have gbid := uuid_no_w uuid
  have size : 'W' ∉ (glusterBlockFormatSize info.size).toList :=
    fun hw => (size_chars info.size _ hw).2 rfl
  have mpath := number_no_w info.mpath
  have timeout : 'W' ∉ (toString info.ioTimeout ++ " Seconds").toList :=
    fun hw => (timeout_chars info.ioTimeout _ hw).2 rfl
  have keys : 'W' ∉ "\nGBID: ".toList ∧ 'W' ∉ "\nSIZE: ".toList ∧ 'W' ∉ "\nHA: ".toList ∧
      'W' ∉ "\nIOTIMEOUT: ".toList ∧ 'W' ∉ ['\n'] := by decide
  unfold dataText
  rw [List.mem_append, List.mem_append, List.mem_append, List.mem_append, List.mem_append,
    List.mem_append, List.mem_append, List.mem_append]
  tauto

theorem names_unmarked (uuid : isUuid info.gbid = true) (block : Unmarked blk.blockName.toList)
    (volume : Unmarked info.volume.toList) : Unmarked (namesText blk info ++ dataText info) := by
  have other : ∀ c ∈ [' ', '\n'], c ∉ passwordMask.marker := CText.forall_of_all (by decide)
  have line : ∃ d, dataText info = '\n' :: d := by
    have key : "\nGBID: ".toList = '\n' :: "GBID: ".toList := by decide
    unfold dataText
    rw [key]
    exact ⟨_, by simp only [List.cons_append]; rfl⟩
  obtain ⟨d, shown⟩ := line
  have free : Unmarked d := unmarked_of_no_w (fun hw =>
    dataText_no_w info uuid (shown ▸ List.mem_cons_of_mem _ hw))
  have name : "NAME: ".toList = "NAME:".toList ++ [' '] := by decide
  have second : "\nVOLUME: ".toList = '\n' :: ("VOLUME:".toList ++ [' ']) := by decide
  have text : namesText blk info ++ dataText info = "NAME:".toList ++ ' ' :: (blk.blockName.toList ++
      '\n' :: ("VOLUME:".toList ++ ' ' :: (info.volume.toList ++ '\n' :: d))) := by
    rw [shown]
    unfold namesText
    rw [name, second]
    simp only [List.append_assoc, List.cons_append, List.nil_append]
  rw [text]
  refine passwordMask.free_sep (other _ (by decide)) (unmarked_of_no_w (by decide)) ?_
  refine passwordMask.free_sep (other _ (by decide)) block ?_
  refine passwordMask.free_sep (other _ (by decide)) (unmarked_of_no_w (by decide)) ?_
  exact passwordMask.free_sep (other _ (by decide)) volume free

theorem info_hides {p q : String} (uuid : isUuid info.gbid = true) (first : isUuid p = true)
    (second : isUuid q = true) (block : glusterBlockIsNameAcceptable blk.blockName = true)
    (volume : glusterBlockIsNameAcceptable info.volume = true)
    (blockFree : Unmarked blk.blockName.toList) (volumeFree : Unmarked info.volume.toList) :
    gbClipoffSensitiveDetails (infoText json blk { info with passwd := p }) =
      gbClipoffSensitiveDetails (infoText json blk { info with passwd := q }) := by
  cases format : blk.jsonResp.given with
  | false =>
    rw [infoText_plain json blk info format, infoText_plain json blk info format]
    have hides := plain_hides (names_unmarked blk info uuid blockFree volumeFree) first second
      (infoTailText info)
    simpa only [List.append_assoc] using hides
  | true =>
    rw [infoText_json json blk info format, infoText_json json blk info format]
    refine obj_hides first second (fun f hf => ?_) (infoTail info) ['\n']
    rcases List.mem_append.mp hf with names | data
    · exact infoNames_clean blk info block volume blockFree volumeFree f names
    · exact infoData_clean info uuid f data

/-- A name with the marker in it takes the place of the password. -/
theorem info_leaks {p q : String} (first : isUuid p = true) (second : isUuid q = true)
    (block : glusterBlockIsNameAcceptable blk.blockName = true)
    (volume : glusterBlockIsNameAcceptable info.volume = true)
    (marked : ¬ (Unmarked blk.blockName.toList ∧ Unmarked info.volume.toList))
    (same : gbClipoffSensitiveDetails (infoText json blk { info with passwd := p }) =
      gbClipoffSensitiveDetails (infoText json blk { info with passwd := q })) : p = q := by
  have length : p.toList.length = q.toList.length := by
    simp only [isUuid, Bool.and_eq_true, beq_iff_eq] at first second
    rw [first.1, second.1]
  have occurs : passwordMask.marker <:+: blk.blockName.toList ∨
      passwordMask.marker <:+: info.volume.toList := by
    by_contra none
    exact marked ⟨fun h => none (.inl h), fun h => none (.inr h)⟩
  cases format : blk.jsonResp.given with
  | false =>
    rw [infoText_plain json blk info format, infoText_plain json blk info format] at same
    refine leaks ?_ ?_ length same
    · rcases occurs with h | h
      · refine h.trans ⟨"NAME: ".toList, "\nVOLUME: ".toList ++ info.volume.toList, ?_⟩
        unfold namesText
        simp only [List.append_assoc]
      · exact h.trans (List.infix_append_right)
    · have key : "\nGBID: ".toList = "\nGBID".toList ++ ':' :: [' '] := by decide
      refine ⟨"\nGBID".toList, [' '] ++ info.gbid.toList ++
        "\nSIZE: ".toList ++ (glusterBlockFormatSize info.size).toList ++
        "\nHA: ".toList ++ (toString info.mpath).toList ++ "\nIOTIMEOUT: ".toList ++
        (toString info.ioTimeout ++ " Seconds").toList ++ ['\n'] ++ "PASSWORD: ".toList, ?_, '\n', ?_,
        by decide⟩
      · unfold dataText
        rw [key]
        simp only [List.append_assoc, List.cons_append]
        rfl
      · simp
  | true =>
    rw [infoText_json json blk info format, infoText_json json blk info format,
      obj_secret (words_plain (uuid_word first)), obj_secret (words_plain (uuid_word second))] at same
    let L := json blk.jsonResp
    let x := '{' :: front L 0 ((infoNames blk info).map (Json.member L 1))
    let y := front L 0 ((infoData info).map (Json.member L 1)) ++ (L.member 1 ++ (['"'] ++
      (passwordMask.marker ++ (['"'] ++ ':' :: (L.colon ++ ['"'])))))
    have text : ∀ s : String, lead L (infoNames blk info ++ infoData info) ++ (passwordMask.marker ++
        (['"'] ++ ':' :: ((L.colon ++ ['"']) ++ (s.toList ++ trail L (infoTail info))))) ++ ['\n'] =
          x ++ (y ++ (s.toList ++ (trail L (infoTail info) ++ ['\n']))) := by
      intro s
      simp [lead, x, y, front]
    rw [text, text] at same
    refine leaks ?_ ?_ length same
    · have shown : ∀ {key t : String}, (∀ c ∈ t.toList, isWord c = true) →
          passwordMask.marker <:+: t.toList → (key, Json.str t) ∈ infoNames blk info →
            passwordMask.marker <:+: x := by
        intro key t words inside field
        have value : passwordMask.marker <:+: Json.str t L 1 := by
          rw [show Json.str t L 1 = '"' :: (t.toList ++ ['"']) from quote_plain (words_plain words)]
          exact inside.trans ⟨['"'], ['"'], by simp⟩
        have inner : passwordMask.marker <:+: front L 0 ((infoNames blk info).map (Json.member L 1)) :=
          front_contains field value
        exact inner.trans ⟨['{'], [], by simp [x]⟩
      rcases occurs with h | h
      · exact shown (name_words block) h List.mem_cons_self
      · exact shown (name_words volume) h (List.mem_cons_of_mem _ List.mem_cons_self)
    · refine ⟨L.member 1 ++ quote "GBID", L.colon ++ (Json.str info.gbid L 1 ++ ',' ::
        (front L 0 ((infoData info).tail.map (Json.member L 1)) ++ (L.member 1 ++ (['"'] ++
          (passwordMask.marker ++ (['"'] ++ ':' :: (L.colon ++ ['"']))))))), ?_, ',', ?_, by decide⟩
      · simp [y, infoData, front, Json.member, passwordMask]
      · simp

end Replies

end GlusterBlock
