import UiMarkup.Text.Blank

namespace UiMarkup.Text

-- The runs between the characters that satisfy `p`; two neighbouring separators have the empty
-- run between them, so there is always one run more than there are separators.
def runs (p : Char → Bool) : List Char → List (List Char)
  | [] => [[]]
  | c :: cs =>
    if p c then [] :: runs p cs
    else match runs p cs with
      | []      => [[c]]
      | r :: rs => (c :: r) :: rs

def cutFirst (sep : Char) : List Char → Option (List Char × List Char)
  | [] => none
  | c :: cs =>
    if c = sep then some ([], cs)
    else (cutFirst sep cs).map fun (l, r) => (c :: l, r)

def cutLast (sep : Char) : List Char → Option (List Char × List Char)
  | [] => none
  | c :: cs =>
    match cutLast sep cs with
    | some (l, r) => some (c :: l, r)
    | none => if c = sep then some ([], cs) else none

def after (lead : List Char) (s : List Char) : Option (List Char) :=
  match lead, s with
  | [], s => some s
  | _ :: _, [] => none
  | l :: ls, c :: cs => if l = c then after ls cs else none

def before (tail : List Char) (s : List Char) : Option (List Char) :=
  (after tail.reverse s.reverse).map List.reverse

def split (sep : Char) (s : String) : List String :=
  (runs (· == sep) s.toList).map String.ofList

def words (s : String) : List String :=
  ((runs isBlank s.toList).filter (!·.isEmpty)).map String.ofList

def cutFirst? (sep : Char) (s : String) : Option (String × String) :=
  (cutFirst sep s.toList).map fun (l, r) => (.ofList l, .ofList r)

def cutLast? (sep : Char) (s : String) : Option (String × String) :=
  (cutLast sep s.toList).map fun (l, r) => (.ofList l, .ofList r)

def after? (lead : String) (s : String) : Option String :=
  (after lead.toList s.toList).map String.ofList

def before? (tail : String) (s : String) : Option String :=
  (before tail.toList s.toList).map String.ofList

def trimmed (s : String) : String :=
  .ofList (trim s.toList)

def begins (lead : String) (s : String) : Bool :=
  (after? lead s).isSome

-- The words of `s` between underscores, each with a capital first letter, run together:
-- `top_left` becomes `TopLeft`.
def camel (s : String) : String :=
  .ofList ((runs (· == '_') s.toList).flatMap capital)
where
  capital : List Char → List Char
    | []      => []
    | c :: cs => c.toUpper :: cs

theorem runs_eq_splitOnP (p : Char → Bool) (s : List Char) : runs p s = s.splitOnP p := by
  induction s with
  | nil => rfl
  | cons c cs ih =>
    rw [runs, ih, List.splitOnP_cons_eq_if_modifyHead]
    cases h : cs.splitOnP p with
    | nil => exact absurd h (List.splitOnP_ne_nil p cs)
    | cons r rs => rfl

theorem runs_append_cons {p : Char → Bool} {c : Char} (hc : p c) (l r : List Char) :
    runs p (l ++ c :: r) = runs p l ++ runs p r := by
  simp only [runs_eq_splitOnP, List.splitOnP_append_cons l r hc]

theorem runs_of_all {p : Char → Bool} {w : List Char} (h : w.all (!p ·)) : runs p w = [w] := by
  rw [runs_eq_splitOnP, List.splitOnP_eq_singleton (by simpa using h)]

@[simp] theorem after_append (lead rest : List Char) : after lead (lead ++ rest) = some rest := by
  induction lead with
  | nil => rfl
  | cons l ls ih => simp [after, ih]

theorem eq_append_of_after {lead s rest : List Char} (h : after lead s = some rest) :
    s = lead ++ rest := by
  induction lead generalizing s with
  | nil => simpa [after] using h
  | cons l ls ih =>
    cases s with
    | nil => simp [after] at h
    | cons c cs =>
      simp only [after] at h
      split at h
      case isTrue hc => rw [hc, ih h]; rfl
      case isFalse => simp at h

theorem after_eq_none_iff {lead s : List Char} : after lead s = none ↔ ¬lead <+: s := by
  constructor
  case mp =>
    rintro h ⟨rest, rfl⟩
    rw [after_append] at h
    exact Option.some_ne_none _ h
  case mpr =>
    intro h
    refine Option.eq_none_iff_forall_ne_some.mpr fun rest hrest => h ⟨rest, ?_⟩
    exact (eq_append_of_after hrest).symm

@[simp] theorem before_append (rest tail : List Char) : before tail (rest ++ tail) = some rest := by
  simp [before]

theorem eq_append_of_before {tail s rest : List Char} (h : before tail s = some rest) :
    s = rest ++ tail := by
  obtain ⟨rest', hrest, rfl⟩ := Option.map_eq_some_iff.mp h
  have hs := congrArg List.reverse (eq_append_of_after hrest)
  simpa using hs

theorem before_eq_none_iff {tail s : List Char} : before tail s = none ↔ ¬tail <:+ s := by
  rw [before, Option.map_eq_none_iff, after_eq_none_iff, List.reverse_prefix]

theorem cutFirst_append {sep : Char} {l : List Char} (h : sep ∉ l) (r : List Char) :
    cutFirst sep (l ++ sep :: r) = some (l, r) := by
  induction l with
  | nil => simp [cutFirst]
  | cons c cs ih =>
    have ⟨hc, hcs⟩ := List.ne_and_not_mem_of_not_mem_cons h
    simp [cutFirst, ih hcs, Ne.symm hc]

theorem cutLast_of_not_mem {sep : Char} {s : List Char} (h : sep ∉ s) : cutLast sep s = none := by
  induction s with
  | nil => rfl
  | cons c cs ih =>
    have ⟨hc, hcs⟩ := List.ne_and_not_mem_of_not_mem_cons h
    simp [cutLast, ih hcs, Ne.symm hc]

theorem cutLast_append {sep : Char} (l : List Char) {r : List Char} (h : sep ∉ r) :
    cutLast sep (l ++ sep :: r) = some (l, r) := by
  induction l with
  | nil => simp [cutLast, cutLast_of_not_mem h]
  | cons c cs ih => simp [cutLast, ih]

theorem split_append (sep : Char) (a b : String) :
    split sep (a ++ sep.toString ++ b) = split sep a ++ split sep b := by
  have hs : (a ++ sep.toString ++ b).toList = a.toList ++ sep :: b.toList := by simp
  rw [split, hs, runs_append_cons (p := (· == sep)) (beq_self_eq_true sep), List.map_append]
  rfl

theorem split_intercalate {sep : Char} {ws : List String} (hne : ws ≠ [])
    (h : ∀ w ∈ ws, sep ∉ w.toList) : split sep (sep.toString.intercalate ws) = ws := by
  have hs : (sep.toString.intercalate ws).toList = [sep].intercalate (ws.map String.toList) := by
    simp
  rw [split, hs, runs_eq_splitOnP, ← List.splitOn_eq_splitOnP, List.splitOn_intercalate]
  · simp
  · simpa using h
  · simpa using hne

theorem after?_append (lead rest : String) : after? lead (lead ++ rest) = some rest := by
  simp [after?]

theorem before?_append (rest tail : String) : before? tail (rest ++ tail) = some rest := by
  simp [before?]

theorem eq_append_of_after? {lead s rest : String} (h : after? lead s = some rest) :
    s = lead ++ rest := by
  obtain ⟨cs, hcs, rfl⟩ := Option.map_eq_some_iff.mp h
  exact String.toList_inj.mp (by simpa using eq_append_of_after hcs)

theorem eq_append_of_before? {tail s rest : String} (h : before? tail s = some rest) :
    s = rest ++ tail := by
  obtain ⟨cs, hcs, rfl⟩ := Option.map_eq_some_iff.mp h
  exact String.toList_inj.mp (by simpa using eq_append_of_before hcs)

theorem before?_eq_none_iff {tail s : String} :
    before? tail s = none ↔ ¬tail.toList <:+ s.toList := by
  rw [before?, Option.map_eq_none_iff, before_eq_none_iff]

theorem cutFirst?_append {sep : Char} {l : String} (h : sep ∉ l.toList) (r : String) :
    cutFirst? sep (l ++ sep.toString ++ r) = some (l, r) := by
  have hs : (l ++ sep.toString ++ r).toList = l.toList ++ sep :: r.toList := by simp
  rw [cutFirst?, hs, cutFirst_append h]
  simp

theorem cutLast?_of_not_mem {sep : Char} {s : String} (h : sep ∉ s.toList) :
    cutLast? sep s = none := by
  rw [cutLast?, cutLast_of_not_mem h]
  rfl

theorem cutLast?_append (l : String) {r : String} (h : '.' ∉ r.toList) :
    cutLast? '.' (l ++ "." ++ r) = some (l, r) := by
  have hs : (l ++ "." ++ r).toList = l.toList ++ '.' :: r.toList := by simp
  rw [cutLast?, hs, cutLast_append _ h]
  simp

structure Longest (p : Char → Bool) (front rest : List Char) : Prop where
  inside  : ∀ c ∈ front, p c
  outside : ∀ c ∈ rest.head?, p c = false

theorem longest_takeWhile (p : Char → Bool) (s : List Char) :
    Longest p (s.takeWhile p) (s.dropWhile p) where
  inside  := List.all_eq_true.mp List.all_takeWhile
  outside := fun c hc => by simpa [Option.mem_def.mp hc] using List.head?_dropWhile_not p s

namespace Longest

variable {p : Char → Bool} {front rest : List Char} (h : Longest p front rest)
include h

theorem takeWhile_eq : (front ++ rest).takeWhile p = front := by
  rw [List.takeWhile_append_of_pos h.inside]
  cases rest with
  | nil => exact List.append_nil front
  | cons c cs => rw [List.takeWhile_cons_of_neg (by simp [h.outside c rfl]), List.append_nil]

theorem dropWhile_eq : (front ++ rest).dropWhile p = rest := by
  rw [List.dropWhile_append_of_pos h.inside]
  cases rest with
  | nil => rfl
  | cons c cs => rw [List.dropWhile_cons_of_neg (by simp [h.outside c rfl])]

end Longest

end UiMarkup.Text
