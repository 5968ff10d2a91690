import GlusterBlock.CommandLine

/-! The volume list of `genconfig` as the command line checks it and as the daemon takes
it apart. The daemon counts the delimiters and fills in the tokens, so an empty field
leaves a null pointer behind. -/
namespace GlusterBlock

open Fields (tokens Gapless)

/-- `none` is a null pointer. -/
structure StrToCharArray where
  len : Nat
  data : List (Option String)
  deriving DecidableEq, Repr

/-- The array is zeroed, then the tokens are put in one after another. -/
def getCharArrayFromDelimitedStr (str : String) (delim : Char) : StrToCharArray :=
  let len := str.toList.count delim + 1
  { len := len
    data := (tokens delim str.toList).zipIdx.foldl
      (fun data tok => data.set tok.2 (some (String.ofList tok.1))) (List.replicate len none) }

/-- The loop of `getSoTgArraysForAllVolume` over the array: the names it initialises, up to
the first volume whose pass fails. -/
def volumeInits (passes : Option String → Bool) : List (Option String) → List (Option String)
  | [] => []
  | vol :: vols => vol :: if passes vol then volumeInits passes vols else []

section Fill

theorem fill_length (toks : List (List Char)) (k : Nat) (data : List (Option String)) :
    ((toks.zipIdx k).foldl (fun data tok => data.set tok.2 (some (String.ofList tok.1)))
      data).length = data.length := by
  induction toks generalizing k data with
  | nil => rfl
  | cons tok toks ih =>
    rw [List.zipIdx_cons, List.foldl_cons, ih, List.length_set]

/-- A token a slot, from the first free one on. -/
theorem fill_slots (toks : List (List Char)) (front : List (Option String)) (free : Nat)
    (room : toks.length ≤ free) :
    (toks.zipIdx front.length).foldl
        (fun data tok => data.set tok.2 (some (String.ofList tok.1)))
        (front ++ List.replicate free none) =
      front ++ toks.map (fun tok => some (String.ofList tok)) ++
        List.replicate (free - toks.length) none := by
  induction toks generalizing front free with
  | nil => simp
  | cons tok toks ih =>
    obtain ⟨free, rfl⟩ : ∃ n, free = n + 1 :=
      ⟨free - 1, by rw [List.length_cons] at room; omega⟩
    have put : (front ++ List.replicate (free + 1) none).set front.length
        (some (String.ofList tok)) =
          (front ++ [some (String.ofList tok)]) ++ List.replicate free none := by
      rw [List.replicate_succ]
      simp
    have next := ih (front ++ [some (String.ofList tok)]) free
      (by rw [List.length_cons] at room; omega)
    rw [List.length_append, List.length_singleton] at next
    rw [List.zipIdx_cons, List.foldl_cons, put, next]
    simp

end Fill

section Agreement

variable {s : String}

theorem tokens_length (s : List Char) : (tokens ',' s).length ≤ s.count ',' + 1 := by
  rw [Fields.tokens_eq, ← Fields.length_splitOn]
  exact List.length_filter_le _ _

/-- The tokens, and a null pointer for each empty field. -/
theorem charArray_data (s : String) : (getCharArrayFromDelimitedStr s ',').data =
    (tokens ',' s.toList).map (fun tok => some (String.ofList tok)) ++
      List.replicate (s.toList.count ',' + 1 - (tokens ',' s.toList).length) none := by
  have filled := fill_slots (tokens ',' s.toList) [] (s.toList.count ',' + 1) (tokens_length _)
  simpa [getCharArrayFromDelimitedStr] using filled

theorem inits_missing {data : List (Option String)} :
    (∀ passes, none ∉ volumeInits passes data) ↔ none ∉ data := by
  constructor
  · intro never missing
    have all : volumeInits (fun _ => true) data = data := by
      clear never missing
      induction data with
      | nil => rfl
      | cons vol vols ih => simp [volumeInits, ih]
    exact never _ (all.symm ▸ missing)
  · intro full passes
    induction data with
    | nil => exact List.not_mem_nil
    | cons vol vols ih =>
      obtain ⟨here, later⟩ := not_or.mp (mt List.mem_cons.mpr full)
      unfold volumeInits
      split
      · exact fun missing => (List.mem_cons.mp missing).elim here (ih later)
      · exact fun missing => (List.mem_cons.mp missing).elim here List.not_mem_nil

/-- The daemon gets as many volumes as it counts, each with a name of its own in the order
of the text, and initialises no other. -/
def VolumesAgree (s : String) : Prop :=
  let vols := getCharArrayFromDelimitedStr s ','
  vols.data.length = vols.len ∧
    (∀ vol ∈ vols.data, ∃ name, vol = some name ∧ name ≠ "" ∧
      glusterBlockIsNameAcceptable name = true) ∧
    vols.data = (tokens ',' s.toList).map (fun tok => some (String.ofList tok)) ∧
    ∀ passes, none ∉ volumeInits passes vols.data

theorem data_length (s : String) : (getCharArrayFromDelimitedStr s ',').data.length =
    (getCharArrayFromDelimitedStr s ',').len := by
  unfold getCharArrayFromDelimitedStr
  dsimp only
  rw [fill_length, List.length_replicate]

theorem token_named {tok : List Char} (mem : tok ∈ tokens ',' s.toList) :
    String.ofList tok ≠ "" := by
  rw [Fields.tokens_eq, List.mem_filter] at mem
  have some : tok ≠ [] := by simpa using mem.2
  simpa using some

/-- No slot stays empty exactly when every field is a token. -/
theorem slots_full : none ∉ (getCharArrayFromDelimitedStr s ',').data ↔
    tokens ',' s.toList = s.toList.splitOn ',' := by
  have fields := Fields.length_splitOn ',' s.toList
  have few := tokens_length s.toList
  rw [charArray_data, List.mem_append, not_or, List.mem_replicate]
  constructor
  · rintro ⟨_, none⟩
    have same : (tokens ',' s.toList).length = (s.toList.splitOn ',').length := by
      rw [fields]
      by_contra other
      exact none ⟨by omega, rfl⟩
    rw [Fields.tokens_eq] at same ⊢
    exact List.filter_sublist.eq_of_length same
  · intro same
    refine ⟨by simp, fun missing => ?_⟩
    rw [same, fields] at missing
    omega

/-- What the command line lets through is what the daemon gets exactly when the list is
not empty and no comma stands at an end of it or beside another. -/
theorem volume_lists_agree (accepted : glusterBlockIsVolListAcceptable s = true) :
    VolumesAgree s ↔ s ≠ "" ∧ Gapless ',' s.toList := by
  have full : VolumesAgree s ↔ none ∉ (getCharArrayFromDelimitedStr s ',').data := by
    constructor
    · rintro ⟨_, named, _⟩ missing
      obtain ⟨_, same, _⟩ := named none missing
      cases same
    · intro full
      have toks : (getCharArrayFromDelimitedStr s ',').data =
          (tokens ',' s.toList).map (fun tok => some (String.ofList tok)) := by
        have fields := Fields.length_splitOn ',' s.toList
        rw [charArray_data, slots_full.mp full, fields]
        simp
      refine ⟨data_length s, fun vol mem => ?_, toks, inits_missing.mpr full⟩
      rw [toks] at mem
      obtain ⟨tok, here, rfl⟩ := List.mem_map.mp mem
      exact ⟨_, rfl, token_named here, List.all_eq_true.mp accepted tok here⟩
  rw [full, slots_full]
  by_cases empty : s = ""
  · subst s
    exact iff_of_false (by decide) (fun both => both.1 rfl)
  · have chars : s.toList ≠ [] := by simpa using empty
    rw [Fields.tokens_eq_fields chars]
    exact (and_iff_right empty).symm

theorem volume_lists_agree_sample :
    glusterBlockIsVolListAcceptable "vol1,vol2" = true ∧ VolumesAgree "vol1,vol2" := by
  have accepted : glusterBlockIsVolListAcceptable "vol1,vol2" = true := by decide
  exact ⟨accepted, (volume_lists_agree accepted).mpr (by decide)⟩

/-- A trailing comma is let through, and the daemon initialises a volume without a name. -/
theorem trailing_comma_missing :
    glusterBlockIsVolListAcceptable "vol1," = true ∧ ¬ VolumesAgree "vol1," ∧
      none ∈ volumeInits (fun _ => true) (getCharArrayFromDelimitedStr "vol1," ',').data := by
  have missing : none ∈ volumeInits (fun _ => true)
      (getCharArrayFromDelimitedStr "vol1," ',').data := by decide
  exact ⟨by decide, fun agree => agree.2.2.2 _ missing, missing⟩

end Agreement

end GlusterBlock
