import UiMarkup.Reading

namespace UiMarkup

def union {n : Nat} (sets : List (BitVec n)) : BitVec n :=
  sets.foldr (· ||| ·) 0

section Union

variable {n : Nat} {α : Type} {a b : List (BitVec n)}

@[simp] theorem union_nil : union ([] : List (BitVec n)) = 0 := rfl

@[simp] theorem union_cons (s : BitVec n) (sets : List (BitVec n)) :
    union (s :: sets) = s ||| union sets := rfl

theorem getLsbD_union {sets : List (BitVec n)} {i : Nat} :
    (union sets).getLsbD i ↔ ∃ s ∈ sets, s.getLsbD i := by
  induction sets
  case nil => simp
  case cons s sets hi => simp [hi]

theorem union_append (a b : List (BitVec n)) : union (a ++ b) = union a ||| union b := by
  induction a
  case nil => simp
  case cons s a hi => rw [List.cons_append, union_cons, union_cons, hi, BitVec.or_assoc]

theorem union_congr (h : ∀ s, s ∈ a ↔ s ∈ b) : union a = union b := by
  refine BitVec.eq_of_getLsbD_eq fun i _ => Bool.eq_iff_iff.mpr ?_
  simp [getLsbD_union, h]

theorem union_and (a : List (BitVec n)) (mask : BitVec n) :
    union a &&& mask = union (a.map (· &&& mask)) := by
  induction a
  case nil => simp
  case cons s a hi => rw [union_cons, List.map_cons, union_cons, ← hi, BitVec.and_or_distrib_right]

theorem union_map_or (l : List α) (f g : α → BitVec n) :
    union (l.map fun x => f x ||| g x) = union (l.map f) ||| union (l.map g) := by
  induction l
  case nil => simp
  case cons x l hi =>
    simp only [List.map_cons, union_cons, hi]
    ac_rfl

theorem union_filter {l : List α} {p : α → Bool} {f : α → BitVec n}
    (h : ∀ x, p x = false → f x = 0) : union ((l.filter p).map f) = union (l.map f) := by
  induction l
  case nil => rfl
  case cons x l hi =>
    cases hx : p x
    case true  => simp [hx, hi]
    case false => simp [hx, hi, h x hx]

theorem union_filterMap {β : Type} (l : List α) (g : α → Option β) (f : β → BitVec n) :
    union ((l.filterMap g).map f) = union (l.map fun x => ((g x).map f).getD 0) := by
  induction l
  case nil => rfl
  case cons x l hi => cases hx : g x <;> simp [hx, hi]

end Union

namespace Reading

-- The tokens that count: in a selector those that are not empty, elsewhere all of them, without the
-- blanks around them.

def selectorTokens (sep : Char) (s : String) : List String :=
  (Text.split sep s).filter (· ≠ "")

def barTokens (s : String) : List String :=
  (Text.split '|' s).map Text.trimmed

structure IsTokenSet {n : Nat} (sep : Char) (tokens : String → List String)
    (bits : String → BitVec n) : Prop where
  joined    : ∀ a b, bits (a ++ sep.toString ++ b) = bits a ||| bits b
  unordered : ∀ a b, (∀ w, w ∈ tokens a ↔ w ∈ tokens b) → bits a = bits b

section Tokens

variable {n : Nat} {sep : Char} {tokens : String → List String} {bits : String → BitVec n}

theorem isTokenSet_of_union (named : String → BitVec n)
    (htokens : ∀ a b, tokens (a ++ sep.toString ++ b) = tokens a ++ tokens b)
    (hbits : ∀ s, bits s = union ((tokens s).map named)) : IsTokenSet sep tokens bits where
  joined a b := by rw [hbits, hbits, hbits, htokens, List.map_append, union_append]
  unordered a b h := by
    rw [hbits, hbits]
    refine union_congr fun x => ?_
    simp only [List.mem_map, h]

theorem selectorTokens_append (sep : Char) (a b : String) :
    selectorTokens sep (a ++ sep.toString ++ b) = selectorTokens sep a ++ selectorTokens sep b := by
  rw [selectorTokens, Text.split_append, List.filter_append]
  rfl

theorem barTokens_append (a b : String) :
    barTokens (a ++ '|'.toString ++ b) = barTokens a ++ barTokens b := by
  rw [barTokens, Text.split_append, List.map_append]
  rfl

end Tokens

theorem bits_join {α : Type} [OrOp α] {n : Nat} (bits : α → BitVec n)
    (hor : ∀ a b, bits (a ||| b) = bits a ||| bits b) {none : α} (hnone : bits none = 0)
    (names : Assoc String α) (unknown : String → Diagnostic) (ws : List String) :
    bits (join names unknown none ws).value =
      union ((ws.filterMap (Assoc.get? names)).map bits) := by
  induction ws
  case nil => exact hnone
  case cons w ws hi =>
    cases h : Assoc.get? names w
    case none   => simp [join, h, hor, hnone, hi]
    case some a => simp [join, h, hor, hi]

-- Each word adds the bits that its table has for it, and an unknown one adds none.

theorem bits_borderSides (s : String) : (borderSides s).value.bits =
    union (((barTokens s).filterMap (Assoc.get? BorderSides.names)).map BorderSides.bits) :=
  bits_join BorderSides.bits (fun _ _ => rfl) rfl BorderSides.names .notABorderSide (barTokens s)

theorem bits_cellControls (s : String) : (cellControls s).value.bits =
    union (((barTokens s).filterMap (Assoc.get? CellControls.names)).map CellControls.bits) :=
  bits_join CellControls.bits (fun _ _ => rfl) rfl CellControls.names .notACellControl
    (barTokens s)

example : (borderSides " left|top |left|up").value.bits = 0b110 := by decide

theorem isTokenSet_borderSides : IsTokenSet '|' barTokens fun s => (borderSides s).value.bits :=
  isTokenSet_of_union _ barTokens_append fun s => (bits_borderSides s).trans (union_filterMap ..)

theorem isTokenSet_cellControls : IsTokenSet '|' barTokens fun s => (cellControls s).value.bits :=
  isTokenSet_of_union _ barTokens_append fun s => (bits_cellControls s).trans (union_filterMap ..)

-- The states and the part of `sel` are those that `ws` name, and nothing else is in it.
structure Names (ws : List String) (sel : Selector) : Prop where
  states : sel.states.bits = union ((ws.filterMap States.ofName?).map States.bits)
  part   : sel.part.bits = union ((ws.filterMap Part.ofName?).map Part.bits)
  halves : sel.bits = sel.states.bits ||| sel.part.bits

def stateBits (w : String) : BitVec 32 :=
  ((States.ofName? w).map States.bits).getD 0

def partBits (w : String) : BitVec 32 :=
  ((Part.ofName? w).map Part.bits).getD 0

theorem bits_selectorToken (w : String) : (selectorToken w).bits = stateBits w ||| partBits w := by
  unfold selectorToken stateBits partBits
  cases States.ofName? w <;> cases Part.ofName? w <;> rfl

theorem bits_foldl_selectorToken (ws : List String) (acc : Selector) :
    (ws.foldl (fun acc w => acc ||| selectorToken w) acc).bits =
      acc.bits ||| union (ws.map fun w => stateBits w ||| partBits w) := by
  induction ws generalizing acc
  case nil => simp
  case cons w ws hi =>
    rw [List.foldl_cons, hi, List.map_cons, union_cons, ← bits_selectorToken, ← BitVec.or_assoc]
    rfl

theorem bits_selector (sep : Char) (s : String) : (selector sep s).bits =
    union ((selectorTokens sep s).map fun w => stateBits w ||| partBits w) := by
  have hempty : ∀ w, decide (w ≠ "") = false → stateBits w ||| partBits w = 0 := by
    intro w hw
    obtain rfl : w = "" := by simpa using hw
    decide
  rw [selector, bits_foldl_selectorToken, selectorTokens, union_filter hempty]
  exact BitVec.zero_or

theorem isTokenSet_selector (sep : Char) :
    IsTokenSet sep (selectorTokens sep) fun s => (selector sep s).bits :=
  isTokenSet_of_union _ (selectorTokens_append sep) (bits_selector sep)

-- All states are in the half below the parts, and all parts in the half above the states.

theorem of_names {α : Type} {names : Assoc String α} {bits : α → BitVec 32} {P : BitVec 32 → Prop}
    (hnone : P 0) (hnames : ∀ p ∈ names, P (bits p.2)) (w : String) :
    P (((Assoc.get? names w).map bits).getD 0) := by
  cases h : Assoc.get? names w
  case none   => exact hnone
  case some a => exact hnames (w, a) (Assoc.mem_of_get? h)

theorem stateBits_inside (w : String) :
    stateBits w &&& 0xffff = stateBits w ∧ stateBits w &&& 0xff0000 = 0#32 :=
  of_names (P := fun x => x &&& 0xffff = x ∧ x &&& 0xff0000 = 0#32) (by decide) (by decide) w

theorem partBits_inside (w : String) :
    partBits w &&& 0xff0000 = partBits w ∧ partBits w &&& 0xffff = 0#32 :=
  of_names (P := fun x => x &&& 0xff0000 = x ∧ x &&& 0xffff = 0#32) (by decide) (by decide) w

theorem names_selector (sep : Char) (s : String) :
    Names (selectorTokens sep s) (selector sep s) := by
  have hstates : (selector sep s).states.bits = union ((selectorTokens sep s).map stateBits) := by
    simp only [Selector.states, bits_selector, union_and, List.map_map, Function.comp_def,
      BitVec.and_or_distrib_right, stateBits_inside, partBits_inside, BitVec.or_zero]
  have hpart : (selector sep s).part.bits = union ((selectorTokens sep s).map partBits) := by
    simp only [Selector.part, bits_selector, union_and, List.map_map, Function.comp_def,
      BitVec.and_or_distrib_right, stateBits_inside, partBits_inside, BitVec.zero_or]
  constructor
  case states => rw [hstates, union_filterMap]; rfl
  case part   => rw [hpart, union_filterMap]; rfl
  case halves => rw [hstates, hpart, bits_selector, union_map_or]

theorem filterMap_ne_empty {α : Type} (f : String → Option α) (h : f "" = none)
    (ws : List String) : (ws.filter (· ≠ "")).filterMap f = ws.filterMap f := by
  have hf : (fun w => if w ≠ "" then f w else none) = f := by
    funext w
    by_cases hw : w = "" <;> simp [hw, h]
  simpa only [List.filterMap_filter, decide_eq_true_eq] using congrArg (List.filterMap · ws) hf

theorem names_filter_ne_empty {ws : List String} {sel : Selector} :
    Names (ws.filter (· ≠ "")) sel ↔ Names ws sel := by
  have hstates := filterMap_ne_empty States.ofName? rfl ws
  have hpart := filterMap_ne_empty Part.ofName? rfl ws
  constructor
  case mp  => exact fun h => ⟨hstates ▸ h.states, hpart ▸ h.part, h.halves⟩
  case mpr => exact fun h => ⟨hstates ▸ h.states, hpart ▸ h.part, h.halves⟩

theorem selectorTokens_intercalate {sep : Char} {ws : List String}
    (h : ∀ w ∈ ws, sep ∉ w.toList) :
    selectorTokens sep (sep.toString.intercalate ws) = ws.filter (· ≠ "") := by
  cases ws
  case nil => rfl
  case cons w ws => rw [selectorTokens, Text.split_intercalate (List.cons_ne_nil w ws) h]

theorem styleSelector_append {name : String} (h : '-' ∉ name.toList) (rest : String) :
    styleSelector (name ++ "-" ++ rest) = (name, selector '-' rest) := by
  rw [styleSelector, show "-" = '-'.toString from rfl, Text.cutFirst?_append h]

-- Words behind each other are read as themselves unless the separator occurs in one of them; a text
-- is read as its tokens in any case.
theorem token_sets_joined :
    (∀ sep, IsTokenSet sep (selectorTokens sep) fun s => (selector sep s).bits) ∧
    IsTokenSet '|' barTokens (fun s => (borderSides s).value.bits) ∧
    IsTokenSet '|' barTokens (fun s => (cellControls s).value.bits) ∧
    (∀ sep s, Names (selectorTokens sep s) (selector sep s)) ∧
    (∀ sep ws, (∀ w ∈ ws, sep ∉ w.toList) →
      Names ws (selector sep (sep.toString.intercalate ws))) ∧
    ∀ name rest, '-' ∉ name.toList →
      styleSelector (name ++ "-" ++ rest) = (name, selector '-' rest) := by
  refine ⟨isTokenSet_selector, isTokenSet_borderSides, isTokenSet_cellControls, names_selector,
    fun sep ws h => ?_, fun name rest h => styleSelector_append h rest⟩
  rw [← names_filter_ne_empty, ← selectorTokens_intercalate h]
  exact names_selector sep _

theorem token_sets_joined_any_knob :
    (∀ w ∈ ["any", "knob"], '-' ∉ w.toList) ∧
    (selector '-' "any-knob").states = .any ∧ (selector '-' "any-knob").part.bits = 0xf0000 ∧
    (selector '-' "knob-any-knob").bits = (selector '-' "any-knob").bits ∧
    styleSelector "card-any-knob" = ("card", selector '-' "any-knob") := by
  obtain ⟨hjoined, -, -, -, hnames, hstyle⟩ := token_sets_joined
  have hwords : ∀ w ∈ ["any", "knob"], '-' ∉ w.toList := by decide
  have htokens (w : String) :
      w ∈ selectorTokens '-' "knob-any-knob" ↔ w ∈ selectorTokens '-' "any-knob" := by
    have hleft : selectorTokens '-' "knob-any-knob" = ["knob", "any", "knob"] := by decide
    have hright : selectorTokens '-' "any-knob" = ["any", "knob"] := by decide
    grind
  have hsame := (hjoined '-').unordered "knob-any-knob" "any-knob" htokens
  have hany := hnames '-' ["any", "knob"] hwords
  exact ⟨hwords, congrArg States.mk hany.states, hany.part, hsame,
    hstyle "card" "any-knob" (by decide)⟩

end Reading

end UiMarkup
