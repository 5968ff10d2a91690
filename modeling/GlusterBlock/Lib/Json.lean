import Mathlib.Data.List.Forall2
import Mathlib.Data.List.Basic
import Mathlib.Tactic.Tauto

/-! The text of a JSON value under a layout of blanks. A value is its rendering, so a
record is written as its members in their order. Texts of one shape and length are equal
only where all their members are. -/
namespace Json

def IsBlank (c : Char) : Prop := c = ' ' ∨ c = '\n' ∨ c = '\t'

/-- The blanks in front of a member, behind the colon of a key, where no line ends, and in
front of the closing bracket, also where there are no members. -/
structure Layout where
  member : Nat → List Char
  colon : List Char
  close : Nat → List Char
  empty : Nat → List Char
  blank : ∀ n, ∀ c ∈ member n ++ close n ++ empty n, IsBlank c
  inline : ∀ c ∈ colon, c = ' '

/-- No blanks at all. -/
def Layout.plain : Layout where
  member := fun _ => []
  colon := []
  close := fun _ => []
  empty := fun _ => []
  blank := fun _ => List.forall_mem_nil _
  inline := List.forall_mem_nil _

/-- A blank between any two tokens but before a comma or colon. -/
def Layout.spaced : Layout where
  member := fun _ => [' ']
  colon := [' ']
  close := fun _ => [' ']
  empty := fun _ => [' ']
  blank := fun _ c hc => .inl (by simpa using hc)
  inline := fun c hc => List.mem_singleton.mp hc

/-- A line for each member, indented by its depth. -/
def Layout.pretty : Layout where
  member := fun n => '\n' :: List.replicate (2 * n) ' '
  colon := []
  close := fun n => '\n' :: List.replicate (2 * n) ' '
  empty := fun n => List.replicate (2 * n) ' '
  blank := by
    intro n c hc
    simp only [List.mem_append, List.mem_cons, List.mem_replicate] at hc
    unfold IsBlank
    tauto
  inline := fun c hc => (List.not_mem_nil hc).elim

abbrev Value := Layout → Nat → List Char

def escapeChar (c : Char) : List Char :=
  match c with
  | '"' => ['\\', '"']
  | '\\' => ['\\', '\\']
  | '/' => ['\\', '/']
  | '\n' => ['\\', 'n']
  | '\r' => ['\\', 'r']
  | '\t' => ['\\', 't']
  | c => if c.toNat < 32 then ['\\', 'u', '0', '0', Nat.digitChar (c.toNat / 16),
      Nat.digitChar (c.toNat % 16)] else [c]

def quote (s : String) : List Char := '"' :: (s.toList.flatMap escapeChar ++ ['"'])

def str (s : String) : Value := fun _ _ => quote s
def int (n : Int) : Value := fun _ _ => (toString n).toList
def bool (b : Bool) : Value := fun _ _ => (toString b).toList

/-- The members behind the first one. -/
def more (L : Layout) (level : Nat) : List (List Char) → List Char
  | [] => L.close level
  | t :: ts => ',' :: (L.member (level + 1) ++ (t ++ more L level ts))

def body (L : Layout) (level : Nat) : List (List Char) → List Char
  | [] => L.empty level
  | t :: ts => L.member (level + 1) ++ (t ++ more L level ts)

def member (L : Layout) (level : Nat) (f : String × Value) : List Char :=
  quote f.1 ++ ':' :: (L.colon ++ f.2 L level)

def arr (xs : List Value) : Value := fun L level =>
  '[' :: (body L level (xs.map (fun x => x L (level + 1))) ++ [']'])

def obj (fields : List (String × Value)) : Value := fun L level =>
  '{' :: (body L level (fields.map (member L (level + 1))) ++ ['}'])

/-- No character of the text is escaped. -/
def Plain (s : String) : Prop := ∀ c ∈ s.toList, escapeChar c = [c]

section Text

variable {s t : String} {L : Layout} {level : Nat}

theorem quote_plain (plain : Plain s) : quote s = '"' :: (s.toList ++ ['"']) := by
  have kept : s.toList.flatMap escapeChar = s.toList := by
    rw [List.flatMap_congr (g := fun c => [c]) (fun c hc => plain c hc)]
    simp
  rw [quote, kept]

/-- What stands in front of a member depends on those before it only. -/
def front (L : Layout) (level : Nat) (before : List (List Char)) : List Char :=
  before.flatMap (fun t => L.member (level + 1) ++ (t ++ [',']))

theorem more_split (b : List Char) (before : List (List Char)) (t : List Char)
    (after : List (List Char)) :
    L.member (level + 1) ++ (b ++ more L level (before ++ t :: after)) =
      front L level (b :: before) ++ (L.member (level + 1) ++ (t ++ more L level after)) := by
  induction before generalizing b with
  | nil => simp [front, more]
  | cons c before ih =>
    have next := ih c
    simp only [List.cons_append, more, front, List.flatMap_cons] at next ⊢
    rw [next]
    simp

theorem body_split (before : List (List Char)) (t : List Char) (after : List (List Char)) :
    body L level (before ++ t :: after) =
      front L level before ++ (L.member (level + 1) ++ (t ++ more L level after)) := by
  cases before with
  | nil => rfl
  | cons b before => exact more_split b before t after

theorem more_inj {xs ys : List (List Char)}
    (lengths : List.Forall₂ (fun x y => x.length = y.length) xs ys)
    (same : more L level xs = more L level ys) : xs = ys := by
  induction lengths with
  | nil => rfl
  | cons length _ ih =>
    simp only [more, List.cons.injEq, true_and] at same
    obtain ⟨rfl, rest⟩ := List.append_inj (List.append_cancel_left same) length
    rw [ih rest]

theorem body_inj {xs ys : List (List Char)}
    (lengths : List.Forall₂ (fun x y => x.length = y.length) xs ys)
    (same : body L level xs = body L level ys) : xs = ys := by
  cases lengths with
  | nil => rfl
  | cons length rest =>
    obtain ⟨rfl, others⟩ := List.append_inj (List.append_cancel_left same) length
    rw [more_inj rest others]

theorem more_length {xs ys : List (List Char)}
    (lengths : List.Forall₂ (fun x y => x.length = y.length) xs ys) :
    (more L level xs).length = (more L level ys).length := by
  induction lengths with
  | nil => rfl
  | cons length _ ih => simp only [more, List.length_cons, List.length_append, length, ih]

theorem body_length {xs ys : List (List Char)}
    (lengths : List.Forall₂ (fun x y => x.length = y.length) xs ys) :
    (body L level xs).length = (body L level ys).length := by
  cases lengths with
  | nil => rfl
  | cons length rest => simp only [body, List.length_append, length, more_length rest]

/-- Values whose texts have one length in every place. -/
def SameLength (v w : Value) : Prop := ∀ L level, (v L level).length = (w L level).length

theorem SameLength.refl (v : Value) : SameLength v v := fun _ _ => rfl

theorem str_length (s_plain : Plain s) (t_plain : Plain t) (length : s.length = t.length) :
    SameLength (str s) (str t) := by
  intro L level
  rw [str, str, quote_plain s_plain, quote_plain t_plain]
  simp only [List.length_cons, List.length_append, String.length_toList, length]

theorem str_inj (s_plain : Plain s) (t_plain : Plain t) (same : str s L level = str t L level) :
    s = t := by
  rw [str, str, quote_plain s_plain, quote_plain t_plain] at same
  exact String.toList_injective (List.append_cancel_right (List.cons.inj same).2)

variable {xs ys : List Value} {fs gs : List (String × Value)}

theorem arr_length (lengths : List.Forall₂ SameLength xs ys) : SameLength (arr xs) (arr ys) := by
  intro L level
  have texts : List.Forall₂ (fun x y => x.length = y.length)
      (xs.map (fun x => x L (level + 1))) (ys.map (fun y => y L (level + 1))) := by
    rw [List.forall₂_map_left_iff, List.forall₂_map_right_iff]
    exact lengths.imp (fun x y h => h L (level + 1))
  simp only [arr, List.length_cons, List.length_append, body_length texts]

theorem arr_inj (lengths : List.Forall₂ SameLength xs ys)
    (same : arr xs L level = arr ys L level) :
    xs.map (fun x => x L (level + 1)) = ys.map (fun y => y L (level + 1)) := by
  have texts : List.Forall₂ (fun x y => x.length = y.length)
      (xs.map (fun x => x L (level + 1))) (ys.map (fun y => y L (level + 1))) := by
    rw [List.forall₂_map_left_iff, List.forall₂_map_right_iff]
    exact lengths.imp (fun x y h => h L (level + 1))
  exact body_inj texts (List.append_cancel_right (List.cons.inj same).2)

/-- The same key with values of one length. -/
def SameField (f g : String × Value) : Prop := f.1 = g.1 ∧ SameLength f.2 g.2

theorem SameField.refl (f : String × Value) : SameField f f := ⟨rfl, .refl _⟩

theorem members_length (fields : List.Forall₂ SameField fs gs) :
    List.Forall₂ (fun x y => x.length = y.length) (fs.map (member L level))
      (gs.map (member L level)) := by
  rw [List.forall₂_map_left_iff, List.forall₂_map_right_iff]
  refine fields.imp (fun f g h => ?_)
  simp only [member, List.length_append, List.length_cons, h.1, h.2 L level]

theorem obj_length (fields : List.Forall₂ SameField fs gs) : SameLength (obj fs) (obj gs) := by
  intro L level
  simp only [obj, List.length_cons, List.length_append, body_length (members_length fields)]

theorem obj_inj (fields : List.Forall₂ SameField fs gs)
    (same : obj fs L level = obj gs L level) :
    fs.map (fun f => f.2 L (level + 1)) = gs.map (fun g => g.2 L (level + 1)) := by
  have texts := body_inj (members_length fields) (List.append_cancel_right (List.cons.inj same).2)
  induction fields with
  | nil => rfl
  | @cons f g fs gs field _ ih =>
    obtain ⟨first, rest⟩ := List.cons.inj texts
    rw [member, member, field.1] at first
    have value := List.append_cancel_left (List.cons.inj (List.append_cancel_left first)).2
    rw [List.map_cons, List.map_cons, value, ih (by rw [obj, obj, rest]) rest]

end Text

end Json
