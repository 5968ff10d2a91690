import GlusterBlock.ExecMask

/-! The script of a request as its lines: texts that are the same whatever the password is,
and logins. The mask hides every login, so the command in the log of the daemon does not
depend on the password; its plain text does as soon as it has a login. -/
namespace GlusterBlock

open Search

section Lines

variable {α : Type} {f g : α → Text} {xs : List α}

theorem linesOf_cons {a : Text} {rest : List Text} (some : rest ≠ []) :
    linesOf (a :: rest) = a ++ '\n' :: linesOf rest := by
  cases rest with
  | nil => exact absurd rfl some
  | cons b rest => simp [linesOf, List.intercalate]

/-- Texts of the same lengths are seen one by one. -/
theorem linesOf_inj (alike : ∀ x ∈ xs, (f x).length = (g x).length)
    (same : linesOf (xs.map f) = linesOf (xs.map g)) : ∀ x ∈ xs, f x = g x := by
  induction xs with
  | nil => simp
  | cons x xs ih =>
    intro y mem
    by_cases last : xs = []
    · subst last
      rw [List.mem_singleton.mp mem]
      simpa [linesOf] using same
    · rw [List.map_cons, List.map_cons, linesOf_cons (by simpa using last),
        linesOf_cons (by simpa using last)] at same
      obtain ⟨first, rest⟩ := List.append_inj same (alike x List.mem_cons_self)
      rcases List.mem_cons.mp mem with rfl | mem
      · exact first
      · exact ih (fun z hz => alike z (List.mem_cons_of_mem x hz)) (List.cons.inj rest).2 y mem

theorem linesOf_length (alike : ∀ x ∈ xs, (f x).length = (g x).length) :
    (linesOf (xs.map f)).length = (linesOf (xs.map g)).length := by
  induction xs with
  | nil => rfl
  | cons x xs ih =>
    have first := alike x List.mem_cons_self
    by_cases last : xs = []
    · subst last
      simpa [linesOf] using first
    · rw [List.map_cons, List.map_cons, linesOf_cons (by simpa using last),
        linesOf_cons (by simpa using last), List.length_append, List.length_append, first,
        List.length_cons, List.length_cons, ih (fun z hz => alike z (List.mem_cons_of_mem x hz))]

theorem tokens_lines (ls : List Text) :
    Fields.tokens '\n' (linesOf ls) = ls.flatMap (Fields.tokens '\n') := by
  induction ls with
  | nil => rfl
  | cons l ls ih =>
    by_cases last : ls = []
    · subst last
      simp [linesOf]
    · rw [linesOf_cons last, Fields.tokens_append, ih, List.flatMap_cons]

end Lines

section Clip

/-- Every line can be masked. -/
def Masks (t : Text) : Prop := ∀ line ∈ Fields.tokens '\n' t, Readable line

theorem readable_of_missing {line : Text} (missing : ¬ passwordEcho <:+: line) : Readable line := by
  refine .inr (fun ptr found => ?_)
  rw [strstr_none.mpr missing] at found
  cases found

theorem mapM_isSome {α β : Type} {f : α → Option β} {l : List α} :
    (l.mapM f).isSome ↔ ∀ a ∈ l, (f a).isSome := by
  induction l with
  | nil => simp
  | cons a l ih =>
    rw [List.mapM_cons, List.forall_mem_cons, ← ih]
    cases f a with
    | none => simp
    | some b => cases l.mapM f <;> simp

theorem line_within {line : Text} {ls : List Text} (mem : line ∈ ls) : line <:+: linesOf ls := by
  induction ls with
  | nil => cases mem
  | cons l ls ih =>
    by_cases last : ls = []
    · subst last
      rw [List.mem_singleton.mp mem]
      simp [linesOf]
    · rw [linesOf_cons last]
      rcases List.mem_cons.mp mem with rfl | mem
      · exact (List.prefix_append _ _).isInfix
      · exact (ih mem).trans ⟨l ++ ['\n'], [], by simp⟩

theorem token_within {t line : Text} (mem : line ∈ Fields.tokens '\n' t) : line <:+: t := by
  rw [Fields.tokens_eq] at mem
  have found := line_within (List.mem_of_mem_filter mem)
  rwa [linesOf, List.intercalate_splitOn] at found

theorem clip_isSome {t : Text} : (gbClipoffSensitiveDetailsAtExec t).isSome ↔ Masks t := by
  unfold gbClipoffSensitiveDetailsAtExec Masks
  by_cases marked : passwordArg <:+: t ∨ passwordEcho <:+: t
  · rw [if_pos marked, Option.isSome_map, mapM_isSome]
    exact forall₂_congr (fun _ _ => clipLine_isSome)
  · rw [if_neg marked]
    refine iff_of_true rfl (fun line mem => readable_of_missing (fun occurs => ?_))
    exact marked (.inr (occurs.trans (token_within mem)))

end Clip

section Command

/-- A script is made of texts that are the same whatever the password is, and of logins. -/
inductive ScriptRow where
  | text (t : Text)
  | login (i : Nat)

def ScriptRow.shown (gbid p : String) : ScriptRow → Text
  | .text t => t
  | .login i => authcred gbid i p.toList

structure Rows (gbid : String) (f : String → Text) (rows : List ScriptRow) : Prop where
  some : rows ≠ []
  shown : ∀ p, f p = linesOf (rows.map (ScriptRow.shown gbid p))

variable {gbid p q : String} {f g : String → Text} {rows rows' : List ScriptRow}

theorem rows_text (t : Text) : Rows gbid (fun _ => t) [.text t] where
  some := by simp
  shown p := by simp [linesOf, ScriptRow.shown]

theorem rows_login (i : Nat) : Rows gbid (fun p => authcred gbid i p.toList) [.login i] where
  some := by simp
  shown p := by simp [linesOf, ScriptRow.shown]

theorem linesOf_append {xs ys : List Text} (hx : xs ≠ []) (hy : ys ≠ []) :
    linesOf (xs ++ ys) = linesOf xs ++ '\n' :: linesOf ys := by
  induction xs with
  | nil => exact absurd rfl hx
  | cons x xs ih =>
    by_cases last : xs = []
    · subst last
      rw [List.singleton_append, linesOf_cons hy]
      simp [linesOf]
    · rw [List.cons_append, linesOf_cons (by simp [last]), ih last, linesOf_cons last]
      simp

theorem rows_join (first : Rows gbid f rows) (second : Rows gbid g rows') :
    Rows gbid (fun p => f p ++ '\n' :: g p) (rows ++ rows') where
  some := by simp [first.some]
  shown p := by
    rw [List.map_append, linesOf_append (by simpa using first.some) (by simpa using second.some),
      first.shown, second.shown]

/-- The script with its first and its last line. -/
theorem rows_script (body : Rows gbid f rows) (blockName : String) :
    Rows gbid (fun p => targetcliScript (some (f p)) blockName)
      ([.text "targetcli <<EOF".toList] ++ (rows ++
        [.text (tgcliGlfs blockName ++ " saveconfig\nexit\nEOF".toList)])) :=
  rows_join (rows_text _) (rows_join body (rows_text _))

/-- A list of lines, some of which have a login of their own. -/
theorem rows_lines (lines : List Text) (body : Rows gbid f rows) :
    Rows gbid (fun p => linesOf (lines ++ [f p])) (lines.map ScriptRow.text ++ rows) := by
  induction lines with
  | nil =>
    have alone : (fun p => linesOf ([] ++ [f p])) = f := by
      funext p
      simp [linesOf]
    rw [alone]
    exact body
  | cons line lines ih =>
    have split : (fun p => linesOf (line :: lines ++ [f p])) =
        fun p => line ++ '\n' :: linesOf (lines ++ [f p]) := by
      funext p
      rw [List.cons_append, linesOf_cons (by simp)]
    have joined := rows_join (rows_text line) ih
    rw [split]
    exact joined

/-- A text with a login in it. -/
def HasLogin (gbid : String) (f : String → Text) : Prop :=
  ∃ rows, Rows gbid f rows ∧ ∃ i, ScriptRow.login i ∈ rows

/-- What the commands so far can be. -/
def Begun (gbid : String) (tmp : String → Option Text) : Prop :=
  (∀ p, tmp p = none) ∨ ∃ f, HasLogin gbid f ∧ ∀ p, tmp p = some (f p)

theorem hasLogin_lines {f : String → Text} (lines : List Text) (body : HasLogin gbid f) :
    HasLogin gbid (fun p => linesOf (lines ++ [f p])) := by
  obtain ⟨rows, shape, i, mem⟩ := body
  exact ⟨_, rows_lines lines shape, i, List.mem_append_right _ mem⟩

theorem hasLogin_behind {f g : String → Text} (first : HasLogin gbid f) (second : HasLogin gbid g) :
    HasLogin gbid (fun p => f p ++ '\n' :: g p) := by
  obtain ⟨rows, shape, i, mem⟩ := first
  obtain ⟨rows', shape', _⟩ := second
  exact ⟨_, rows_join shape shape', i, List.mem_append_left _ mem⟩

theorem hasLogin_text (t : Text) (i : Nat) :
    HasLogin gbid (fun p => t ++ '\n' :: authcred gbid i p.toList) :=
  ⟨_, rows_join (rows_text t) (rows_login i), i, by simp⟩

/-- When each step adds a login, the whole has one. -/
theorem hasLogin_foldl {β : Type} {step : String → Option Text → β → Option Text}
    (adds : ∀ tmp b, Begun gbid tmp → ∃ f, HasLogin gbid f ∧ ∀ p, step p (tmp p) b = some (f p))
    {l : List β} (there : l ≠ []) {tmp : String → Option Text} (begun : Begun gbid tmp) :
    ∃ f, HasLogin gbid f ∧ ∀ p, l.foldl (step p) (tmp p) = some (f p) := by
  induction l generalizing tmp with
  | nil => exact absurd rfl there
  | cons b l ih =>
    obtain ⟨f, has, next⟩ := adds tmp b begun
    by_cases last : l = []
    · subst last
      exact ⟨f, has, next⟩
    · have behind : Begun gbid (fun p => some (f p)) := .inr ⟨f, has, fun _ => rfl⟩
      obtain ⟨f', has', rest⟩ := ih last behind
      refine ⟨f', has', fun p => ?_⟩
      rw [List.foldl_cons, next]
      exact rest p

theorem modify_adds {blk : BlockModify} (auth : blk.authMode = true) (tmp : String → Option Text)
    (i : Nat) (begun : Begun blk.gbid tmp) : ∃ f, HasLogin blk.gbid f ∧
      ∀ p, modifyExec { blk with passwd := p } (tmp p) i = some (f p) := by
  have own : HasLogin blk.gbid (fun p => linesOf (modifyLines { blk with passwd := p } i)) := by
    have lines : (fun p => linesOf (modifyLines { blk with passwd := p } i)) = fun p =>
        (tgcliTpg blk.gbid i ++ " set attribute authentication=1".toList) ++
          '\n' :: authcred blk.gbid i p.toList := by
      funext p
      unfold modifyLines
      rw [if_pos auth, linesOf_cons (by simp)]
      simp [linesOf]
    rw [lines]
    exact hasLogin_text _ i
  rcases begun with none | ⟨f, has, before⟩
  · exact ⟨_, own, fun p => by rw [none]; rfl⟩
  · refine ⟨_, hasLogin_behind has own, fun p => ?_⟩
    rw [before, ← linesOf_cons (by unfold modifyLines; rw [if_pos auth]; simp)]
    rfl

theorem create_adds {args : CommonArgs} (capable : Bool) (auth : args.blk.authMode = true)
    (tmp : String → Option Text) (host : Addr × Nat) (begun : Begun args.blk.gbid tmp) :
    ∃ f, HasLogin args.blk.gbid f ∧ ∀ p,
      createExec { args with blk := { args.blk with passwd := p } } capable (tmp p) host =
        some (f p) := by
  have cred (p : String) : createAuthcred { args with blk := { args.blk with passwd := p } } host.2 =
      '\n' :: authcred args.blk.gbid host.2 p.toList := if_pos auth
  rcases begun with none | ⟨f, has, before⟩
  · refine ⟨_, hasLogin_lines (backstoreLines args capable ++
      ["/iscsi create ".toList ++ (gbTgcliIqnPrefix ++ args.blk.gbid).toList,
       tpgText args ++ ' ' :: lunText args host.2] ++ lun0Lines args host.1 host.2 ++
      [portalText args host.1 host.2])
      (hasLogin_text (attrText args host.1 host.2 ++ [' ']) host.2), fun p => ?_⟩
    rw [none]
    unfold createExec
    dsimp only
    rw [cred]
    simp only [List.append_assoc, List.cons_append, List.nil_append]
    rfl
  · refine ⟨_, hasLogin_behind has (hasLogin_lines ([lunText args host.2] ++
      lun0Lines args host.1 host.2 ++ [portalText args host.1 host.2, attrText args host.1 host.2])
      (hasLogin_text [] host.2)), fun p => ?_⟩
    rw [before, ← linesOf_cons (by simp)]
    unfold createExec
    dsimp only
    rw [cred]
    simp only [List.append_assoc, List.cons_append, List.nil_append]
    rfl

variable {req : SrvRequest}

/-- A script has a login, unless it is for a target without portal groups. -/
theorem command_login (auth : req.authMode = true) :
    (∃ blk, req = .modify blk 0) ∨
      ∃ f, HasLogin req.gbid f ∧ ∀ p, (req.repass p).command = f p := by
  have script {f : String → Text} (blockName : String) (has : HasLogin req.gbid f) :
      HasLogin req.gbid (fun p => targetcliScript (some (f p)) blockName) := by
    obtain ⟨rows, shape, i, mem⟩ := has
    exact ⟨_, rows_script shape blockName, i, by simp [mem]⟩
  cases req with
  | create args capable =>
    have hosts : args.hosts.zipIdx 1 ≠ [] := by
      simp [CommonArgs.hosts, blockServerParse, List.splitOn_ne_nil]
    obtain ⟨f, has, all⟩ := hasLogin_foldl (create_adds capable auth) hosts (.inl fun _ => rfl)
    refine .inr ⟨_, script args.blk.blockName has, fun p => ?_⟩
    rw [← all]
    rfl
  | modify blk tpgs =>
    by_cases empty : tpgs = 0
    · exact .inl ⟨blk, by rw [empty]⟩
    · have groups : List.range' 1 tpgs ≠ [] := by simpa using empty
      obtain ⟨f, has, all⟩ := hasLogin_foldl (modify_adds auth) groups (.inl fun _ => rfl)
      refine .inr ⟨_, script blk.blockName has, fun p => ?_⟩
      rw [← all]
      rfl

theorem row_length (hp : isUuid p = true) (hq : isUuid q = true) (row : ScriptRow) :
    (row.shown gbid p).length = (row.shown gbid q).length := by
  cases row with
  | text t => rfl
  | login i =>
    simp only [ScriptRow.shown, authcred, List.length_append, uuid_length hp, uuid_length hq]

/-- The text of a script with a login gives the password away. -/
theorem hasLogin_inj (hp : isUuid p = true) (hq : isUuid q = true) (has : HasLogin gbid f)
    (same : f p = f q) : p = q := by
  obtain ⟨rows, shape, i, mem⟩ := has
  rw [shape.shown, shape.shown] at same
  have row := linesOf_inj (fun row _ => row_length hp hq row) same _ mem
  simp only [ScriptRow.shown, authcred, List.append_cancel_left_eq] at row
  exact String.toList_inj.mp row

/-- What no part of a login has, in front of the password. -/
theorem login_not_mem (hg : isUuid gbid = true) (i : Nat) {c : Char}
    (other : c ∈ ['w', '\n']) :
    c ∉ tgcliTpg gbid i ++ (" set auth userid=".toList ++ (gbid.toList ++ [' '])) := by
  have number : c ∉ (toString i).toList := by
    intro mem
    rw [Nat.toString_eq_repr, Nat.toList_repr] at mem
    have digit := CText.digits_isDigit mem
    simp only [List.mem_cons, List.not_mem_nil, or_false] at other
    rcases other with rfl | rfl <;> exact absurd digit (by decide)
  have uuid : c ∉ gbid.toList := by
    simp only [List.mem_cons, List.not_mem_nil, or_false] at other
    rcases other with rfl | rfl <;> exact uuid_not_mem hg (by decide) (by decide)
  have fixed : c ∉ "/iscsi/".toList ∧ c ∉ gbTgcliIqnPrefix.toList ∧ c ∉ "/tpg".toList ∧
      c ∉ " set auth userid=".toList ∧ c ∉ [' '] := by
    simp only [List.mem_cons, List.not_mem_nil, or_false] at other
    rcases other with rfl | rfl <;> decide
  obtain ⟨root, iqn, tpg, auth, blank⟩ := fixed
  have target : c ∉ tgcliTarget gbid := by
    unfold tgcliTarget
    rw [String.toList_append, List.mem_append, List.mem_append, not_or, not_or]
    exact ⟨root, iqn, uuid⟩
  unfold tgcliTpg
  rw [List.mem_append, List.mem_append, List.mem_append, List.mem_append, List.mem_append]
  tauto

theorem clipLine_login (hg : isUuid gbid = true) (hp : isUuid p = true) (i : Nat) :
    '\n' ∉ authcred gbid i p.toList ∧ clipLine (authcred gbid i p.toList) =
      some (authcred gbid i (List.replicate 36 '*')) := by
  have split (t : Text) : authcred gbid i t =
      (tgcliTpg gbid i ++ (" set auth userid=".toList ++ (gbid.toList ++ [' ']))) ++
        (passwordArg ++ t) := by
    simp only [authcred, List.append_assoc]
    rfl
  constructor
  · rw [split]
    intro mem
    rcases List.mem_append.mp mem with mem | mem
    · exact login_not_mem hg i (by simp) mem
    · rcases List.mem_append.mp mem with mem | mem
      · exact absurd mem (by decide)
      · exact uuid_not_mem hp (by decide) (by decide) mem
  · have marked : strstr passwordArg (authcred gbid i p.toList) = some (passwordArg ++ p.toList) := by
      rw [split]
      exact strstr_marked (by decide)
        (not_infix_of_notMem (c := 'w') (by decide) (login_not_mem hg i (by simp)))
    have value : valueOf (authcred gbid i p.toList) = some p.toList := by
      have behind : CText.after '=' (passwordArg ++ p.toList) = some p.toList :=
        CText.after_of (t := "password".toList) (by decide)
      unfold valueOf
      rw [marked]
      change (CText.after '=' (passwordArg ++ p.toList) <|> _) = _
      rw [behind]
      rfl
    have stars : starValue p.toList = List.replicate 36 '*' := by
      have all := starValue_open (s := []) (uuid_open hp) (by simp)
      rw [List.append_nil, List.append_nil, uuid_stars hp] at all
      exact all
    rw [clipLine_value value, stars, split, split, ← List.append_assoc _ passwordArg p.toList,
      List.length_append, Nat.add_sub_cancel, List.take_left, List.append_assoc]

theorem row_alike (hg : isUuid gbid = true) (hp : isUuid p = true) (hq : isUuid q = true)
    (row : ScriptRow) : (Fields.tokens '\n' (row.shown gbid p)).mapM clipLine =
      (Fields.tokens '\n' (row.shown gbid q)).mapM clipLine := by
  cases row with
  | text t => rfl
  | login i =>
    have one {u : String} (uuid : isUuid u = true) :
        (Fields.tokens '\n' (authcred gbid i u.toList)).mapM clipLine =
          some [authcred gbid i (List.replicate 36 '*')] := by
      obtain ⟨inLine, masked⟩ := clipLine_login hg uuid i
      rw [Fields.tokens_word inLine, if_neg (by simp [authcred])]
      simp [masked]
    exact (one hp).trans (one hq).symm

/-- The masked script is the same for every password. -/
theorem hasLogin_clip (hg : isUuid gbid = true) (hp : isUuid p = true) (hq : isUuid q = true)
    (has : HasLogin gbid f) :
    gbClipoffSensitiveDetailsAtExec (f p) = gbClipoffSensitiveDetailsAtExec (f q) := by
  obtain ⟨rows, shape, i, mem⟩ := has
  have marked (u : String) : passwordArg <:+: f u := by
    have inside : passwordArg <:+: authcred gbid i u.toList :=
      ⟨tgcliTpg gbid i ++ (" set auth userid=".toList ++ (gbid.toList ++ [' '])), u.toList, by
        simp only [authcred, List.append_assoc]
        rfl⟩
    rw [shape.shown]
    exact inside.trans (line_within (List.mem_map_of_mem mem))
  unfold gbClipoffSensitiveDetailsAtExec
  rw [if_pos (.inl (marked p)), if_pos (.inl (marked q)), shape.shown, shape.shown, tokens_lines,
    tokens_lines, List.flatMap_map, List.flatMap_map]
  have each : (rows.flatMap fun row => Fields.tokens '\n' (row.shown gbid p)).mapM clipLine =
      (rows.flatMap fun row => Fields.tokens '\n' (row.shown gbid q)).mapM clipLine := by
    clear shape mem
    induction rows with
    | nil => rfl
    | cons row rows ih =>
      rw [List.flatMap_cons, List.flatMap_cons, List.mapM_append, List.mapM_append,
        row_alike hg hp hq row, ih]
  rw [each]

end Command

end GlusterBlock
