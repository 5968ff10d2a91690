import GlusterBlock.CreateNumbers
import Mathlib.Data.List.Nodup
import Mathlib.Data.List.Perm.Basic

/-! The order of the options of `create`. Each option reads and writes variables of its own;
only the return variable, which no request has, goes from one to the next. -/
namespace GlusterBlock

/-- The variables that a request is made of. -/
def CreateVars.unreturned (v : CreateVars) : CreateVars := { v with ret := 0 }

/-- When an option takes its value. -/
def CreateOption.Takes (v : CreateVars) (value : String) : CreateOption → Prop
  | .ha => isNumber value = true ∧ NumberOption.ha.Documented (scanU value v.obj.mpath)
  | .rbSize => isNumber value = true ∧ NumberOption.rbSize.Documented (scanU value v.obj.rbSize)
  | .blkSize => isNumber value = true ∧ NumberOption.blkSize.Documented (scanU value v.obj.blkSize)
  | .ioTimeout =>
    isNumber value = true ∧ NumberOption.ioTimeout.Documented (scanU value v.obj.ioTimeout)
  | .auth | .prealloc => convertStringToTrillianParse (some value) ≥ 0
  | .storage => True

instance (opt : CreateOption) (v : CreateVars) (value : String) : Decidable (opt.Takes v value) := by
  cases opt <;> unfold CreateOption.Takes <;> infer_instance

/-- What it sets then. -/
def CreateOption.sets (v : CreateVars) (value : String) : CreateOption → CreateVars
  | .ha => { v with obj := NumberOption.ha.store v.obj (scanU value v.obj.mpath) }
  | .rbSize => { v with obj := NumberOption.rbSize.store v.obj (scanU value v.obj.rbSize) }
  | .blkSize => { v with obj := NumberOption.blkSize.store v.obj (scanU value v.obj.blkSize) }
  | .ioTimeout =>
    { v with obj := NumberOption.ioTimeout.store v.obj (scanU value v.obj.ioTimeout) }
  | .auth =>
    { v with obj := { v.obj with authMode := convertStringToTrillianParse (some value) ≠ 0 } }
  | .prealloc =>
    { v with obj := { v.obj with prealloc := convertStringToTrillianParse (some value) ≠ 0 },
             preallocOpt := true }
  | .storage =>
    { v with obj := { v.obj with storage := CText.copy 255 v.obj.storage value },
             takeSize := false }

/-- An option and its value, where it is known and takes it. -/
def optionStep (v : CreateVars) (p : String × String) : Option CreateVars :=
  match glusterBlockCLICreateOptEnumParse p.1 with
  | none => none
  | some opt => if opt.Takes v p.2 then some (opt.sets v p.2) else none

section Step

variable {v : CreateVars} {p q : String × String} {pairs pairs' : List (String × String)}

theorem step_of_word (v : CreateVars) (opt : CreateOption) (value : String) :
    optionStep v (opt.word, value) =
      if opt.Takes v value then some (opt.sets v value) else none := by
  unfold optionStep
  rw [parse_word]

/-- An option in the loop is one step on the variables of the request. -/
theorem createOption_step (v : CreateVars) (p : String × String) :
    (createOption v p.1 p.2).toOption.map CreateVars.unreturned = optionStep v.unreturned p := by
  obtain ⟨key, value⟩ := p
  cases parsed : glusterBlockCLICreateOptEnumParse key with
  | none =>
    unfold createOption optionStep
    rw [parsed]
    rfl
  | some opt =>
    obtain rfl := word_of_parse parsed
    rw [step_of_word]
    have number : ∀ n : NumberOption, n.option = opt →
        (createOption v opt.word value).toOption.map CreateVars.unreturned =
          if opt.Takes v.unreturned value then some (opt.sets v.unreturned value) else none := by
      rintro n rfl
      have takes : n.option.Takes v.unreturned value ↔
          isNumber value = true ∧ n.Documented (scanU value (n.stored v.obj)) := by
        cases n <;> exact Iff.rfl
      rw [createOption_number]
      by_cases read : isNumber value = true ∧ n.Documented (scanU value (n.stored v.obj))
      · rw [if_pos read, if_pos (takes.mpr read)]
        cases n <;> rfl
      · rw [if_neg read, if_neg (fun taken => read (takes.mp taken))]
        rfl
    cases opt with
    | ha => exact number .ha rfl
    | rbSize => exact number .rbSize rfl
    | blkSize => exact number .blkSize rfl
    | ioTimeout => exact number .ioTimeout rfl
    | storage => rfl
    | auth | prealloc =>
      unfold createOption
      rw [parse_word]
      by_cases on : convertStringToTrillianParse (some value) ≥ 0
      · simp [on, CreateOption.Takes, CreateOption.sets, CreateVars.unreturned, Except.toOption]
      · simp [on, CreateOption.Takes, Except.toOption]

/-- Options of different names can change places. -/
theorem step_comm (v : CreateVars) (differ : p.1 ≠ q.1) :
    (optionStep v p).bind (optionStep · q) = (optionStep v q).bind (optionStep · p) := by
  obtain ⟨key, value⟩ := p
  obtain ⟨key', value'⟩ := q
  cases parsed : glusterBlockCLICreateOptEnumParse key with
  | none =>
    have unknown : ∀ u, optionStep u (key, value) = none := by
      intro u
      unfold optionStep
      rw [parsed]
    rw [unknown]
    cases optionStep v (key', value') with
    | none => rfl
    | some u => exact (unknown u).symm
  | some opt =>
    cases parsed' : glusterBlockCLICreateOptEnumParse key' with
    | none =>
      have unknown : ∀ u, optionStep u (key', value') = none := by
        intro u
        unfold optionStep
        rw [parsed']
      rw [unknown]
      cases optionStep v (key, value) with
      | none => rfl
      | some u => exact unknown u
    | some opt' =>
      obtain rfl := word_of_parse parsed
      obtain rfl := word_of_parse parsed'
      have other : opt ≠ opt' := fun same => differ (same ▸ rfl)
      have takes : opt'.Takes (opt.sets v value) value' ↔ opt'.Takes v value' := by
        cases opt <;> cases opt' <;> first | exact Iff.rfl | exact absurd rfl other
      have takes' : opt.Takes (opt'.sets v value') value ↔ opt.Takes v value := by
        cases opt <;> cases opt' <;> first | exact Iff.rfl | exact absurd rfl other
      have sets : opt'.sets (opt.sets v value) value' = opt.sets (opt'.sets v value') value := by
        cases opt <;> cases opt' <;> first | rfl | exact absurd rfl other
      by_cases first : opt.Takes v value
      · by_cases second : opt'.Takes v value'
        · simp [step_of_word, first, second, takes, takes', sets]
        · simp [step_of_word, first, second, takes]
      · by_cases second : opt'.Takes v value'
        · simp [step_of_word, first, second, takes']
        · simp [step_of_word, first, second]

/-- The options in turn, on what the ones in front have set. -/
def optionSteps (start : Option CreateVars) (pairs : List (String × String)) :
    Option CreateVars :=
  pairs.foldl (fun v p => v.bind (optionStep · p)) start

theorem takeOptions_steps (v : CreateVars) (pairs : List (String × String)) :
    (takeOptions v pairs).toOption.map CreateVars.unreturned =
      optionSteps (some v.unreturned) pairs := by
  have rejected : ∀ pairs, optionSteps none pairs = none := by
    intro pairs
    induction pairs with
    | nil => rfl
    | cons p pairs ih => exact ih
  induction pairs generalizing v with
  | nil => rfl
  | cons p pairs ih =>
    change _ = optionSteps (optionStep v.unreturned p) pairs
    rw [takeOptions_cons, ← createOption_step]
    cases createOption v p.1 p.2 with
    | error r => exact (rejected pairs).symm
    | ok u => exact ih u

/-- The options of distinct names set the same in every order. -/
theorem optionSteps_perm (start : Option CreateVars) (perm : pairs.Perm pairs')
    (distinct : (pairs.map Prod.fst).Nodup) : optionSteps start pairs = optionSteps start pairs' := by
  apply perm.foldl_eq'
  intro p hp q hq v
  by_cases same : p = q
  · rw [same]
  · have differ : p.1 ≠ q.1 := fun names =>
      same (List.inj_on_of_nodup_map distinct hp hq names)
    cases v with
    | none => rfl
    | some v => exact step_comm v differ

end Step

section Behind

variable {strtod : List Char → Int × List Char} {v u : CreateVars}

/-- The part of the command behind options that were taken. -/
def createRest (strtod : List Char → Int × List Char) (v : CreateVars) (rest : List String) :
    Option CliRequest :=
  match createOptions v rest with
  | .error _ => none
  | .ok (v, rest) => (createOperands strtod v rest).toOption

theorem createOperands_same (same : v.unreturned = u.unreturned) (rest : List String) :
    (createOperands strtod v rest).toOption = (createOperands strtod u rest).toOption := by
  obtain ⟨objs, takes, prealloc, _⟩ := CreateVars.mk.inj same
  have target : ∀ hosts size, createTarget strtod v hosts size = createTarget strtod u hosts size := by
    intro hosts size
    unfold createTarget
    rw [objs]
  unfold createOperands
  rw [takes, prealloc]
  split
  · split
    · rw [target]
    · rfl
  · split
    · rfl
    · split
      · rw [target]
      · rfl

/-- What is returned for a rejection does not reach the request. -/
theorem createRest_same (same : v.unreturned = u.unreturned) (rest : List String) :
    createRest strtod v rest = createRest strtod u rest := by
  fun_induction createOptions v rest generalizing u with
  | case1 v key value next rest w taken ih =>
    have step := (createOption_step v (key, value)).trans
      (same ▸ (createOption_step u (key, value)).symm)
    dsimp only at step
    unfold createRest
    rw [createOptions, createOptions, taken]
    rw [taken] at step
    cases other : createOption u key value with
    | error r =>
      rw [other] at step
      cases step
    | ok w' =>
      rw [other] at step
      exact ih (Option.some.inj step)
  | case2 v key value next rest r failed =>
    have step := (createOption_step v (key, value)).trans
      (same ▸ (createOption_step u (key, value)).symm)
    dsimp only at step
    unfold createRest
    rw [createOptions, createOptions, failed]
    rw [failed] at step
    cases other : createOption u key value with
    | error r' => rfl
    | ok w' =>
      rw [other] at step
      cases step
  | case3 v rest short =>
    have ends : ∀ w, createOptions w rest = .ok (w, rest) := by
      intro w
      rcases rest with _ | ⟨a, _ | ⟨b, _ | ⟨c, more⟩⟩⟩
      · rfl
      · rfl
      · rfl
      · exact (short a b c more rfl).elim
    unfold createRest
    rw [ends v, ends u]
    exact createOperands_same same rest

/-- The name of an option is no address, so an option and its value are no last
arguments. -/
theorem option_last {p : String × String}
    (recognised : (glusterBlockCLICreateOptEnumParse p.1).isSome = true) :
    (createOperands strtod v [p.1, p.2]).toOption = none := by
  obtain ⟨opt, parsed⟩ := Option.isSome_iff_exists.mp recognised
  have no_host : ∀ n, glusterBlockIsAddrListAcceptable n p.1 ≠ 0 := by
    intro n accepted
    rw [word_of_parse parsed] at accepted
    have addrs := (accepted_tokens accepted).2.1
    cases opt <;> exact absurd (addrs _ List.mem_cons_self) (by decide)
  unfold createOperands
  split
  · unfold createTarget
    dsimp only
    rw [if_pos (no_host _)]
    rfl
  · split <;> rfl

end Behind

section Order

variable {pairs pairs' : List (String × String)}

/-- Two orders of the same options are both rejected, or the same request is sent. -/
theorem option_order (strtod : List Char → Int × List Char) (command volumeblock : String)
    (json : JsonResponseFormat) (rest : List String) (perm : pairs.Perm pairs')
    (recognised : ∀ p ∈ pairs, (glusterBlockCLICreateOptEnumParse p.1).isSome = true)
    (distinct : (pairs.map Prod.fst).Nodup) :
    (glusterBlockCreate strtod (command :: volumeblock :: (pairArgs pairs ++ rest)) json).toOption =
      (glusterBlockCreate strtod (command :: volumeblock :: (pairArgs pairs' ++ rest))
        json).toOption := by
  by_cases left : rest = []
  · -- the last option is left over for the hosts
    subst rest
    have rejected : ∀ pairs : List (String × String), pairs ≠ [] →
        (∀ p ∈ pairs, (glusterBlockCLICreateOptEnumParse p.1).isSome = true) →
        (glusterBlockCreate strtod (command :: volumeblock :: (pairArgs pairs ++ []))
          json).toOption = none := by
      intro pairs some_pair recognised
      obtain ⟨front, p, rfl⟩ := (List.eq_nil_or_concat pairs).resolve_left some_pair
      have shape : pairArgs (front.concat p) ++ [] = pairArgs front ++ [p.1, p.2] := by
        simp [pairArgs]
      rw [shape, create_pairs strtod _ _ _ (List.cons_ne_nil _ _) (by simp)]
      cases glusterBlockParseVolumeBlock volumeblock with
      | none => rfl
      | some names =>
        dsimp only
        cases takeOptions (createVars names.1 names.2 json) front with
        | error r => rfl
        | ok v => exact option_last (recognised p (by simp))
    by_cases empty : pairs = []
    · subst pairs
      rw [perm.nil_eq]
    · have others : ∀ p ∈ pairs', (glusterBlockCLICreateOptEnumParse p.1).isSome = true :=
        fun p mem => recognised p (perm.mem_iff.mpr mem)
      have some_pair : pairs' ≠ [] := by
        rintro rfl
        exact empty perm.eq_nil
      rw [rejected pairs empty recognised, rejected pairs' some_pair others]
  · have front : ∀ pairs : List (String × String),
        (glusterBlockCreate strtod (command :: volumeblock :: (pairArgs pairs ++ rest))
            json).toOption =
          (glusterBlockParseVolumeBlock volumeblock).bind fun names =>
            (takeOptions (createVars names.1 names.2 json) pairs).toOption.bind fun v =>
              createRest strtod v rest := by
      intro pairs
      unfold glusterBlockCreate
      dsimp only
      cases glusterBlockParseVolumeBlock volumeblock with
      | none => rfl
      | some names =>
        dsimp only
        rw [createOptions_front left, Option.bind_some]
        cases takeOptions (createVars names.1 names.2 json) pairs with
        | error r => rfl
        | ok v =>
          change _ = createRest strtod v rest
          unfold createRest
          dsimp only
          cases createOptions v rest <;> rfl
    rw [front, front]
    refine Option.bind_congr fun names _ => ?_
    have steps := optionSteps_perm (some (createVars names.1 names.2 json).unreturned) perm distinct
    rw [← takeOptions_steps, ← takeOptions_steps] at steps
    generalize takeOptions (createVars names.1 names.2 json) pairs = taken at steps ⊢
    generalize takeOptions (createVars names.1 names.2 json) pairs' = taken' at steps ⊢
    cases taken with
    | error r =>
      cases taken' with
      | error r' => rfl
      | ok u => cases steps
    | ok v =>
      cases taken' with
      | error r' => cases steps
      | ok u => exact createRest_same (Option.some.inj steps) rest

theorem option_order_sample :
    let accepted := glusterBlockCreate (fun _ => (1, " MiB".toList)) ["create", "vol/block", "ha",
      "2", "auth", "enable", "block-size", "512", "10.0.0.1,10.0.0.2", "1 MiB"] .none
    accepted.toOption.isSome = true ∧ accepted.toOption =
      (glusterBlockCreate (fun _ => (1, " MiB".toList)) ["create", "vol/block", "block-size", "512",
        "auth", "enable", "ha", "2", "10.0.0.1,10.0.0.2", "1 MiB"] .none).toOption := by
  have perm : [("ha", "2"), ("auth", "enable"), ("block-size", "512")].Perm
      [("block-size", "512"), ("auth", "enable"), ("ha", "2")] := by decide
  exact ⟨rfl, option_order (fun _ => (1, " MiB".toList)) "create" "vol/block" .none
    ["10.0.0.1,10.0.0.2", "1 MiB"] perm (by decide) (by decide)⟩

end Order

end GlusterBlock
