import GlusterBlock.Lib.Extents

/-! The slow way to fill a file with zeros: batches of four buffers while there is room
for one, and a last write with what is left. A write may stop short, and a batch that does
is followed by more; the last write is not. -/
namespace GlusterBlock

open Extents

/-- `GB_ZEROS_BUF_SIZE`. -/
def gbZerosBufSize : Nat := 4194304

/-- `glfs_writev` answers by the number of the call and the bytes that are asked for. -/
structure ZeroFillEnv where
  alloc : Bool
  lseek : Bool
  writev : Nat → Nat → Option Nat

/-- The place in the file, the bytes that are left and the writes so far. -/
structure ZeroFillVars where
  calls : Nat
  pos : Nat
  size : Nat
  writes : List Extent
  deriving DecidableEq, Repr

def ZeroFillVars.wrote (s : ZeroFillVars) (len : Nat) : ZeroFillVars where
  calls := s.calls + 1
  pos := s.pos + len
  size := s.size - len
  writes := s.writes ++ [(s.pos, len)]

/-- The loop: what is left behind it, or where a write failed. `none` is out of fuel. -/
def zeroFillLoop (writev : Nat → Nat → Option Nat) :
    Nat → ZeroFillVars → Option (Except ZeroFillVars ZeroFillVars)
  | 0, _ => none
  | fuel + 1, s =>
    if s.size ≥ gbZerosBufSize * 4 then
      match writev s.calls (gbZerosBufSize * 4) with
      | none => some (.error s)
      | some len => zeroFillLoop writev fuel (s.wrote len)
    else some (.ok s)

/-- The lengths of the vector with its last part cut down. -/
def restVector (size : Nat) : List Nat :=
  let len := size / gbZerosBufSize
  let rest := size % gbZerosBufSize
  ((List.replicate 4 gbZerosBufSize).set len rest).take (if rest ≠ 0 then len + 1 else len)

structure ZeroFillRes where
  ret : Int
  writes : List Extent
  deriving DecidableEq, Repr

def glusterBlockZeroFill (env : ZeroFillEnv) (fuel offset size : Nat) : Option ZeroFillRes :=
  if env.alloc = false ∨ env.lseek = false then some ⟨-1, []⟩
  else
    match zeroFillLoop env.writev fuel ⟨0, offset, size, []⟩ with
    | none => none
    | some (.error s) => some ⟨-1, s.writes⟩
    | some (.ok s) =>
      if s.size = 0 then some ⟨0, s.writes⟩
      else
        match env.writev s.calls (restVector s.size).sum with
        | none => some ⟨-1, s.writes⟩
        | some len => some ⟨0, (s.wrote len).writes⟩

/-- A call writes at least one byte and at most those it is asked for, or it fails. -/
def ZeroFillEnv.Writes (env : ZeroFillEnv) : Prop :=
  ∀ call asked len, env.writev call asked = some len → 1 ≤ len ∧ len ≤ asked

/-- The fill ends, stays inside its range and says 0 only with zeros all over it. -/
def ZeroFills (env : ZeroFillEnv) (offset size : Nat) : Prop :=
  (∃ fuel, glusterBlockZeroFill env fuel offset size ≠ none) ∧
    ∀ fuel res, glusterBlockZeroFill env fuel offset size = some res →
      Within res.writes offset (offset + size) ∧
        (res.ret = 0 → ∀ byte, offset ≤ byte → byte < offset + size → Covers res.writes byte)

section Batches

variable {writev : Nat → Nat → Option Nat} {size calls left more : Nat}

/-- After so many whole batches so many bytes are left. -/
inductive Batches (writev : Nat → Nat → Option Nat) (size : Nat) : Nat → Nat → Prop where
  | start : Batches writev size 0 size
  | next {calls left len : Nat} : Batches writev size calls left →
      gbZerosBufSize * 4 ≤ left → writev calls (gbZerosBufSize * 4) = some len →
      Batches writev size (calls + 1) (left - len)

/-- No further batch is made: there is no room for it or it fails. -/
def LastBatch (writev : Nat → Nat → Option Nat) (calls left : Nat) : Prop :=
  left < gbZerosBufSize * 4 ∨ writev calls (gbZerosBufSize * 4) = none

theorem batches_left (first : Batches writev size calls left)
    (second : Batches writev size calls more) : left = more := by
  induction first generalizing more with
  | start =>
    cases second
    rfl
  | next _ _ answer ih =>
    cases second with
    | next before _ answer' =>
      rw [ih before]
      rw [answer] at answer'
      cases answer'
      rfl

theorem batches_made {later : Nat} (batches : Batches writev size later more)
    (before : calls < later) : ∃ left, Batches writev size calls left ∧
      ¬ LastBatch writev calls left := by
  induction batches with
  | start => omega
  | @next calls' left len made room answer ih =>
    by_cases same : calls = calls'
    · subst calls
      refine ⟨left, made, fun last => ?_⟩
      rcases last with few | failed
      · omega
      · rw [answer] at failed
        cases failed
    · exact ih (by omega)

theorem batches_last {calls' : Nat} (first : Batches writev size calls left)
    (last : LastBatch writev calls left) (second : Batches writev size calls' more)
    (last' : LastBatch writev calls' more) : calls = calls' ∧ left = more := by
  have order : ∀ {k l m n}, Batches writev size k l → LastBatch writev k l →
      Batches writev size m n → ¬ k < m := by
    intro k l m n made ends longer before
    obtain ⟨l', made', goes⟩ := batches_made longer before
    rw [batches_left made made'] at ends
    exact goes ends
  have least := order first last second
  have most := order second last' first
  obtain rfl : calls = calls' := by omega
  exact ⟨rfl, batches_left first second⟩

end Batches

section Loop

variable {env : ZeroFillEnv} {s : ZeroFillVars} {fuel offset size : Nat}

/-- The vector of the last write asks for all that is left. -/
theorem restVector_sum (few : size < gbZerosBufSize * 4) : (restVector size).sum = size := by
  have parts := Nat.div_add_mod size gbZerosBufSize
  have quarter : size / gbZerosBufSize < 4 := by
    rw [Nat.div_lt_iff_lt_mul (by decide), Nat.mul_comm]
    exact few
  unfold restVector
  dsimp only
  generalize size / gbZerosBufSize = len at parts quarter ⊢
  generalize size % gbZerosBufSize = rest at parts ⊢
  obtain rfl | rfl | rfl | rfl : len = 0 ∨ len = 1 ∨ len = 2 ∨ len = 3 := by omega
  all_goals
    by_cases zero : rest = 0
    · subst rest
      simp [List.replicate] at parts ⊢
      omega
    · rw [if_pos zero]
      simp [List.replicate]
      omega

/-- Where the fill stands in the range and what it has written. -/
structure Filling (env : ZeroFillEnv) (offset size : Nat) (s : ZeroFillVars) : Prop where
  fills : Fills s.writes offset s.pos
  left : s.pos + s.size = offset + size
  batches : Batches env.writev size s.calls s.size

theorem filling_start (env : ZeroFillEnv) (offset size : Nat) :
    Filling env offset size ⟨0, offset, size, []⟩ where
  fills := fills_nil offset
  left := rfl
  batches := .start

theorem Filling.wrote (at_ : Filling env offset size s) (writes : env.Writes) {len : Nat}
    (room : gbZerosBufSize * 4 ≤ s.size)
    (answer : env.writev s.calls (gbZerosBufSize * 4) = some len) :
    Filling env offset size (s.wrote len) where
  fills := at_.fills.write len
  left := by
    have here := at_.left
    have bounds := writes _ _ _ answer
    simp only [ZeroFillVars.wrote]
    omega
  batches := at_.batches.next room answer

theorem Filling.within (at_ : Filling env offset size s) :
    Within s.writes offset (offset + size) :=
  at_.fills.within.mono (at_.left ▸ Nat.le_add_right s.pos s.size)

/-- The loop ends at a batch that fails or without room for one. -/
theorem loop_filling (writes : env.Writes) (at_ : Filling env offset size s)
    {end_ : Except ZeroFillVars ZeroFillVars}
    (run : zeroFillLoop env.writev fuel s = some end_) :
    ∃ s', Filling env offset size s' ∧
      (end_ = .error s' ∧ gbZerosBufSize * 4 ≤ s'.size ∧
          env.writev s'.calls (gbZerosBufSize * 4) = none ∨
        end_ = .ok s' ∧ s'.size < gbZerosBufSize * 4) := by
  induction fuel generalizing s with
  | zero => cases run
  | succ fuel ih =>
    unfold zeroFillLoop at run
    split at run
    · rename_i room
      cases answer : env.writev s.calls (gbZerosBufSize * 4) with
      | none =>
        rw [answer] at run
        cases run
        exact ⟨s, at_, .inl ⟨rfl, room, answer⟩⟩
      | some len =>
        rw [answer] at run
        exact ih (at_.wrote writes room answer) run
    · rename_i room
      cases run
      exact ⟨s, at_, .inr ⟨rfl, Nat.lt_of_not_le room⟩⟩

theorem loop_ends (writes : env.Writes) (enough : s.size < fuel) :
    zeroFillLoop env.writev fuel s ≠ none := by
  induction fuel generalizing s with
  | zero => omega
  | succ fuel ih =>
    unfold zeroFillLoop
    split
    · rename_i room
      cases answer : env.writev s.calls (gbZerosBufSize * 4) with
      | none => simp
      | some len =>
        have bounds := writes _ _ _ answer
        have positive : 0 < gbZerosBufSize * 4 := by decide
        apply ih
        simp only [ZeroFillVars.wrote]
        omega
    · simp

end Loop

section Fill

variable {env : ZeroFillEnv} {s : ZeroFillVars} {fuel offset size : Nat} {res : ZeroFillRes}

theorem fill_ends (writes : env.Writes) (enough : size < fuel) :
    glusterBlockZeroFill env fuel offset size ≠ none := by
  have ends := loop_ends (s := ⟨0, offset, size, []⟩) writes enough
  unfold glusterBlockZeroFill
  split
  · simp
  · split
    · rename_i loop
      exact absurd loop ends
    · simp
    · split
      · simp
      · split <;> simp

/-- A fill that is ready to write ends with what was left for its last write. -/
structure Ended (env : ZeroFillEnv) (offset size : Nat) (s : ZeroFillVars) (res : ZeroFillRes) :
    Prop where
  filling : Filling env offset size s
  last : LastBatch env.writev s.calls s.size
  result :
    res = ⟨-1, s.writes⟩ ∧ (gbZerosBufSize * 4 ≤ s.size ∨
        0 < s.size ∧ env.writev s.calls s.size = none) ∨
      res = ⟨0, s.writes⟩ ∧ s.size = 0 ∨
      ∃ len, res = ⟨0, (s.wrote len).writes⟩ ∧ 0 < s.size ∧ s.size < gbZerosBufSize * 4 ∧
        env.writev s.calls s.size = some len

theorem fill_cases (writes : env.Writes)
    (run : glusterBlockZeroFill env fuel offset size = some res) :
    (env.alloc = false ∨ env.lseek = false) ∧ res = ⟨-1, []⟩ ∨
      (env.alloc = true ∧ env.lseek = true) ∧ ∃ s, Ended env offset size s res := by
  unfold glusterBlockZeroFill at run
  split at run
  · rename_i stuck
    cases run
    exact .inl ⟨stuck, rfl⟩
  · rename_i ready
    refine .inr ⟨by simpa using ready, ?_⟩
    cases loop : zeroFillLoop env.writev fuel ⟨0, offset, size, []⟩ with
    | none =>
      rw [loop] at run
      cases run
    | some end_ =>
      rw [loop] at run
      obtain ⟨s, filling, ⟨rfl, room, failed⟩ | ⟨rfl, few⟩⟩ :=
        loop_filling writes (filling_start env offset size) loop
      · cases run
        exact ⟨s, filling, .inr failed, .inl ⟨rfl, .inl room⟩⟩
      · dsimp only at run
        split at run
        · rename_i nothing
          cases run
          exact ⟨s, filling, .inl few, .inr (.inl ⟨rfl, nothing⟩)⟩
        · rename_i something
          have positive : 0 < s.size := Nat.pos_of_ne_zero something
          rw [restVector_sum few] at run
          cases answer : env.writev s.calls s.size with
          | none =>
            rw [answer] at run
            cases run
            exact ⟨s, filling, .inl few, .inl ⟨rfl, .inr ⟨positive, answer⟩⟩⟩
          | some len =>
            rw [answer] at run
            cases run
            exact ⟨s, filling, .inl few, .inr (.inr ⟨len, rfl, positive, few, answer⟩)⟩

/-- The bytes behind a last write, as far as it went. -/
theorem Ended.rest (ended : Ended env offset size s res) (writes : env.Writes) {len : Nat}
    (answer : env.writev s.calls s.size = some len) :
    Within (s.wrote len).writes offset (offset + size) ∧
      ((∀ byte, offset ≤ byte → byte < offset + size → Covers (s.wrote len).writes byte) ↔
        len = s.size) := by
  have bounds := writes _ _ _ answer
  have place := ended.filling.left
  have first := ended.filling.fills.order
  have fills := ended.filling.fills.write len
  refine ⟨fills.within.mono (by omega), fills.covers_all.trans ?_⟩
  omega

theorem Ended.within (ended : Ended env offset size s res) (writes : env.Writes) :
    Within res.writes offset (offset + size) := by
  rcases ended.result with ⟨rfl, _⟩ | ⟨rfl, _⟩ | ⟨len, rfl, _, _, answer⟩
  · exact ended.filling.within
  · exact ended.filling.within
  · exact (ended.rest writes answer).1

theorem Ended.all (ended : Ended env offset size s res) (nothing : s.size = 0) :
    ∀ byte, offset ≤ byte → byte < offset + size → Covers s.writes byte := by
  have place := ended.filling.left
  exact ended.filling.fills.covers_all.mpr (by omega)

/-- The last write, where one is made, takes all that is left or fails. -/
def RestWhole (env : ZeroFillEnv) (size : Nat) : Prop :=
  env.alloc = true → env.lseek = true → ∀ calls left, Batches env.writev size calls left →
    0 < left → left < gbZerosBufSize * 4 → ∀ len, env.writev calls left = some len → len = left

/-- The slow fill keeps its promises exactly when its last write does not stop short. -/
theorem zero_fills_iff (writes : env.Writes) :
    ZeroFills env offset size ↔ RestWhole env size := by
  constructor
  · rintro ⟨⟨fuel, ends⟩, sound⟩ alloc lseek calls left batches more few len answer
    obtain ⟨res, run⟩ := Option.ne_none_iff_exists'.mp ends
    rcases fill_cases writes run with ⟨stuck, _⟩ | ⟨_, s, ended⟩
    · simp [alloc, lseek] at stuck
    · obtain ⟨rfl, rfl⟩ := batches_last batches (.inl few) ended.filling.batches ended.last
      rcases ended.result with ⟨_, full | ⟨_, failed⟩⟩ | ⟨_, nothing⟩ | ⟨len', rfl, _, _, took⟩
      · omega
      · rw [answer] at failed
        cases failed
      · omega
      · rw [answer] at took
        cases took
        exact (ended.rest writes answer).2.mp ((sound _ _ run).2 rfl)
  · intro whole
    refine ⟨⟨size + 1, fill_ends writes (Nat.lt_succ_self size)⟩, fun fuel res run => ?_⟩
    rcases fill_cases writes run with ⟨_, rfl⟩ | ⟨⟨alloc, lseek⟩, s, ended⟩
    · exact ⟨within_nil, fun zero => nomatch zero⟩
    · refine ⟨ended.within writes, fun zero => ?_⟩
      rcases ended.result with ⟨rfl, _⟩ | ⟨rfl, nothing⟩ | ⟨len, rfl, more, few, answer⟩
      · cases zero
      · exact ended.all nothing
      · have same := whole alloc lseek _ _ ended.filling.batches more few len answer
        exact (ended.rest writes answer).2.mpr same

/-- The fill can start, none of its writes fails and the last one takes all that is left. -/
def FillsWhole (env : ZeroFillEnv) (size : Nat) : Prop :=
  env.alloc = true ∧ env.lseek = true ∧ ∀ calls left, Batches env.writev size calls left →
    (gbZerosBufSize * 4 ≤ left → env.writev calls (gbZerosBufSize * 4) ≠ none) ∧
      (0 < left → left < gbZerosBufSize * 4 → env.writev calls left = some left)

/-- A fill that says 0 with the zeros in place. -/
theorem fills_whole_iff (writes : env.Writes)
    (run : glusterBlockZeroFill env fuel offset size = some res) :
    (res.ret = 0 ∧ ∀ byte, offset ≤ byte → byte < offset + size → Covers res.writes byte) ↔
      FillsWhole env size := by
  rcases fill_cases writes run with ⟨stuck, rfl⟩ | ⟨⟨alloc, lseek⟩, s, ended⟩
  · refine iff_of_false (fun both => nomatch both.1) ?_
    rintro ⟨alloc, lseek, _⟩
    simp [alloc, lseek] at stuck
  · constructor
    · rintro ⟨zero, all⟩
      refine ⟨alloc, lseek, fun calls left batches => ⟨fun room failed => ?_, fun more few => ?_⟩⟩
      · obtain ⟨rfl, rfl⟩ :=
          batches_last batches (.inr failed) ended.filling.batches ended.last
        have positive : 0 < gbZerosBufSize * 4 := by decide
        rcases ended.result with ⟨rfl, _⟩ | ⟨_, nothing⟩ | ⟨_, _, _, few, _⟩
        · cases zero
        · omega
        · omega
      · obtain ⟨rfl, rfl⟩ := batches_last batches (.inl few) ended.filling.batches ended.last
        rcases ended.result with ⟨rfl, _⟩ | ⟨_, nothing⟩ | ⟨len, rfl, _, _, answer⟩
        · cases zero
        · omega
        · rw [answer, (ended.rest writes answer).2.mp all]
    · rintro ⟨_, _, whole⟩
      obtain ⟨batch, rest⟩ := whole _ _ ended.filling.batches
      rcases ended.result with ⟨rfl, failed⟩ | ⟨rfl, nothing⟩ | ⟨len, rfl, more, few, answer⟩
      · rcases ended.last with few | none
        · rcases failed with room | ⟨more, none⟩
          · omega
          · rw [rest more few] at none
            cases none
        · rcases failed with room | ⟨more, failed⟩
          · exact absurd none (batch room)
          · by_cases room : gbZerosBufSize * 4 ≤ s.size
            · exact absurd none (batch room)
            · rw [rest more (Nat.lt_of_not_le room)] at failed
              cases failed
      · exact ⟨rfl, ended.all nothing⟩
      · have same : len = s.size := Option.some.inj (answer.symm.trans (rest more few))
        exact ⟨rfl, (ended.rest writes answer).2.mpr same⟩

/-- A file system that writes at most so many bytes at once. -/
def writesUpTo (most : Nat) : ZeroFillEnv where
  alloc := true
  lseek := true
  writev := fun _ asked => if min most asked = 0 then none else some (min most asked)

theorem writesUpTo_writes (most : Nat) : (writesUpTo most).Writes := by
  intro call asked len answer
  unfold writesUpTo at answer
  dsimp only at answer
  split at answer
  · cases answer
  · cases answer
    omega

/-- The one batch is cut to twelve megabytes, and as many are left for the last write. -/
theorem zero_fills_sample : ZeroFills (writesUpTo 12582912) 1048576 25165824 := by
  apply (zero_fills_iff (writesUpTo_writes 12582912)).mpr
  intro _ _ calls left batches some_left few len answer
  have batch : gbZerosBufSize * 4 = 16777216 := rfl
  have bound : left = 25165824 ∨ left ≤ 12582912 := by
    clear some_left few answer
    induction batches with
    | start => exact .inl rfl
    | next _ room took ih =>
      rw [batch] at took room
      cases (show some 12582912 = some _ from took)
      omega
  unfold writesUpTo at answer
  dsimp only at answer
  split at answer
  · omega
  · cases answer
    omega

/-- Two bytes are to be filled, one is written, and the fill says 0. -/
theorem short_rest_unfilled : (writesUpTo 1).Writes ∧ ¬ ZeroFills (writesUpTo 1) 0 2 := by
  refine ⟨writesUpTo_writes 1, fun fills => ?_⟩
  have run : glusterBlockZeroFill (writesUpTo 1) 1 0 2 = some ⟨0, [(0, 1)]⟩ := by decide
  obtain ⟨w, hw, _, behind⟩ := (fills.2 1 _ run).2 rfl 1 (by decide) (by decide)
  rw [List.mem_singleton.mp hw] at behind
  exact absurd behind (by decide)

end Fill

end GlusterBlock
