import UiMarkup.Scene.Tree

namespace UiMarkup

open Text (Longest)

namespace Vocabulary

theorem find?_label (k : WidgetKind) : values.find? (label · == label k) = some k := by
  cases k <;> decide +kernel

theorem label_inj {k k' : WidgetKind} (h : label k = label k') : k = k' := by
  have hk := find?_label k
  rw [h, find?_label k'] at hk
  exact (Option.some.inj hk).symm

theorem blank_not_mem_label (k : WidgetKind) : ' ' ∉ (label k).toList := by
  cases k <;> decide +kernel

end Vocabulary

namespace Scene

open Vocabulary (label)

def nameText : Option String → List Char
  | none   => []
  | some n => ' ' :: '"' :: n.toList ++ ['"']

theorem nameText_inj {n n' : Option String} (h : nameText n = nameText n') : n = n' := by
  cases n <;> cases n' <;> simp_all [nameText, String.toList_inj]

-- Behind the name there are only counts.
structure IsTail (tail : List Char) : Prop where
  apart    : ∀ c ∈ tail.head?, c = ' '
  unquoted : '"' ∉ tail

theorem quote_not_mem_toDigits (n : Nat) : '"' ∉ Nat.toDigits 10 n := fun h => by
  cases Nat.isDigit_of_mem_toDigits (by decide) (by decide) h

theorem isTail_counts (o : Obj) : IsTail (
    (if o.styles.isEmpty then "" else " styles=" ++ toString o.styles.length).toList ++
    (if o.bindings.isEmpty then "" else " bindings=" ++ toString o.bindings.length).toList) := by
  split <;> split <;> constructor <;> simp [quote_not_mem_toDigits]

-- A line begins with the kind and the name.
theorem exists_tail (o : Obj) : ∃ tail, IsTail tail ∧
    (line o).toList = (label o.kind).toList ++ (nameText o.name? ++ tail) := by
  refine ⟨_, isTail_counts o, ?_⟩
  unfold line nameText
  cases o.name? <;> simp

-- The kind is what stands in front of the first blank, and the name ends at the last quote.

theorem longest_label (o : Obj) {tail : List Char} (h : IsTail tail) :
    Longest (· != ' ') (label o.kind).toList (nameText o.name? ++ tail) where
  inside := by
    have hblank := Vocabulary.blank_not_mem_label o.kind
    grind
  outside := by
    cases o.name?
    case none => simpa [nameText] using h.apart
    case some => simp [nameText]

theorem longest_tail (o : Obj) {tail : List Char} (h : IsTail tail) :
    Longest (· != '"') tail.reverse (nameText o.name?).reverse where
  inside := by
    have hquote := h.unquoted
    grind
  outside := by cases o.name? <;> simp [nameText]

theorem line_inj {o o' : Obj} (h : line o = line o') : o.kind = o'.kind ∧ o.name? = o'.name? := by
  obtain ⟨tail, htail, hline⟩ := exists_tail o
  obtain ⟨tail', htail', hline'⟩ := exists_tail o'
  have hsame := congrArg String.toList h
  rw [hline, hline'] at hsame
  have hkind := congrArg (List.takeWhile (· != ' ')) hsame
  rw [(longest_label o htail).takeWhile_eq, (longest_label o' htail').takeWhile_eq] at hkind
  have hrest := congrArg (List.dropWhile (· != ' ')) hsame
  rw [(longest_label o htail).dropWhile_eq, (longest_label o' htail').dropWhile_eq] at hrest
  have hname := congrArg (fun cs => cs.reverse.dropWhile (· != '"')) hrest
  simp only [List.reverse_append, (longest_tail o htail).dropWhile_eq,
    (longest_tail o' htail').dropWhile_eq] at hname
  exact ⟨Vocabulary.label_inj (String.toList_inj.mp hkind),
    nameText_inj (List.reverse_inj.mp hname)⟩

end Scene

end UiMarkup
