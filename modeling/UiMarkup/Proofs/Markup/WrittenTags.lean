import UiMarkup.Markup.Forest
import UiMarkup.Markup.Tag
import UiMarkup.Text.Split

namespace UiMarkup.Markup

open Forest (escape writeAttr)

def isNameChar (c : Char) : Bool :=
  c.isAlphanum || c == '_' || c == '-'

def isName : List Char → Bool
  | []      => false
  | c :: cs => c.isAlpha && cs.all isNameChar

section Names

variable {c d : Char} {name : List Char}

theorem ne_of_isNameChar (hc : isNameChar c) (hd : isNameChar d = false) : c ≠ d := by
  rintro rfl
  exact Bool.false_ne_true (hd.symm.trans hc)

theorem isSpace_of_isNameChar (hc : isNameChar c) : Tag.isSpace c = false := by
  have hspace : c ≠ ' ' := ne_of_isNameChar hc (by decide)
  have htab : c ≠ '\t' := ne_of_isNameChar hc (by decide)
  have hfeed : c ≠ '\n' := ne_of_isNameChar hc (by decide)
  have hreturn : c ≠ '\r' := ne_of_isNameChar hc (by decide)
  simp [Tag.isSpace, hspace, htab, hfeed, hreturn]

theorem isNameChar_of_isAlpha (hc : c.isAlpha) : isNameChar c := by
  simp [isNameChar, Char.isAlphanum, hc]

theorem isNameChar_of_isName (h : isName name) (hc : c ∈ name) : isNameChar c := by
  cases name
  case nil => cases hc
  case cons d ds =>
    obtain ⟨hd, hds⟩ := Bool.and_eq_true_iff.mp h
    cases hc
    case head => exact isNameChar_of_isAlpha hd
    case tail hc => exact List.all_eq_true.mp hds c hc

theorem exists_cons_of_isName (h : isName name) : ∃ c cs, name = c :: cs ∧ c.isAlpha := by
  cases name
  case nil => cases h
  case cons c cs => exact ⟨c, cs, rfl, (Bool.and_eq_true_iff.mp h).1⟩

end Names

theorem quote_not_mem_escape (c : Char) : '"' ∉ escape c := by
  unfold escape
  split
  case h_6 hquote _ => exact fun h => hquote (List.mem_singleton.mp h).symm
  all_goals decide

theorem quote_not_mem_escaped (value : List Char) : '"' ∉ value.flatMap escape := by
  rw [List.mem_flatMap]
  rintro ⟨c, -, hc⟩
  exact quote_not_mem_escape c hc

namespace Reference

-- Where the text goes on is of no account as long as there is no fault.
theorem resolveFrom_escape (size position : Nat) (c : Char) :
    ∃ position', ∀ rest, resolveFrom size position none (escape c ++ rest) =
      (c :: ·) <$> resolveFrom size position' none rest := by
  unfold escape
  split
  case h_6 hamp _ _ _ _ =>
    exact ⟨_, fun rest => by rw [List.singleton_append, resolveFrom, if_neg hamp]⟩
  all_goals exact ⟨_, fun rest => rfl⟩

theorem resolveFrom_escaped (size position : Nat) (value : List Char) :
    resolveFrom size position none (value.flatMap escape) = .ok value := by
  induction value generalizing position
  case nil => rfl
  case cons c cs hi =>
    obtain ⟨position', hc⟩ := resolveFrom_escape size position c
    rw [List.flatMap_cons, hc, hi]
    rfl

theorem resolve_escaped (value : List Char) : resolve (value.flatMap escape) = .ok value :=
  resolveFrom_escaped _ _ value

end Reference

namespace Tag

variable {size : Nat} {earlier : List Written} {c : Char} {cs s rest value : List Char}

theorem quoted_append {quote : Char} (h : quote ∉ value) :
    quoted quote (value ++ quote :: rest) = some (value, rest) := by
  induction value
  case nil => simp [quoted]
  case cons c cs hi =>
    obtain ⟨hc, hcs⟩ := List.ne_and_not_mem_of_not_mem_cons h
    rw [List.cons_append, quoted, if_neg hc.symm, hi hcs]
    rfl

theorem value_quoted (size : Nat) (h : '"' ∉ value) (rest : List Char) :
    Tag.value size ('"' :: (value ++ '"' :: rest)) = .ok (value, rest) := by
  have hspace : skipSpace ('"' :: (value ++ '"' :: rest)) = '"' :: (value ++ '"' :: rest) := rfl
  rw [Tag.value, hspace]
  simp [quoted_append h]

theorem next_written (size : Nat) (hkey : isName (c :: cs))
    (hfresh : ∀ w ∈ earlier, w.key ≠ c :: cs) (hvalue : '"' ∉ value) (rest : List Char) :
    ∃ position, next size earlier c (cs ++ '=' :: '"' :: (value ++ '"' :: rest)) =
      .ok (⟨c :: cs, position, value⟩, rest) := by
  have hcs : ∀ d ∈ cs, (!(d == '=' || isSpace d)) = true := by
    intro d hd
    have hname : isNameChar d := isNameChar_of_isName hkey (List.mem_cons_of_mem c hd)
    have hequals : d ≠ '=' := ne_of_isNameChar hname (by decide)
    simp [hequals, isSpace_of_isNameChar hname]
  have hread := value_quoted size hvalue rest
  generalize '"' :: (value ++ '"' :: rest) = s at hread ⊢
  have hend : Text.Longest (fun d => !(d == '=' || isSpace d)) cs ('=' :: s) := ⟨hcs, by simp⟩
  have hafter : afterEquals size ('=' :: s) = .ok s := rfl
  have hfind : earlier.find? (·.key = c :: cs) = none := by simpa using hfresh
  simp only [next, hend.takeWhile_eq, hend.dropWhile_eq, hafter, hfind, hread, bind, Except.bind,
    pure, Except.pure]
  exact ⟨_, rfl⟩

theorem attributes_nil (hs : skipSpace s = []) : attributes size earlier s = .ok [] := by
  rw [attributes]
  split
  case h_1 => rfl
  case h_2 hs' => cases hs.symm.trans hs'

theorem attributes_cons {w : Written} {v : List Char} (hs : skipSpace s = c :: cs)
    (hnext : next size earlier c cs = .ok (w, rest)) (hv : Reference.resolve w.value = .ok v) :
    attributes size earlier s =
      ((.ofList w.key, .ofList v) :: ·) <$> attributes size (earlier ++ [w]) rest := by
  rw [attributes]
  split
  case h_1 hs' => cases hs.symm.trans hs'
  case h_2 hs' =>
    cases hs.symm.trans hs'
    split
    case h_1 hnext' => cases hnext.symm.trans hnext'
    case h_2 hnext' =>
      cases hnext.symm.trans hnext'
      split
      case h_1 hv' => cases hv.symm.trans hv'
      case h_2 hv' => cases hv.symm.trans hv'; rfl

theorem attributes_written {attrs : Attrs} (hnames : ∀ a ∈ attrs, isName a.1.toList)
    (hdistinct : (attrs.map (·.1)).Nodup)
    (hfresh : ∀ a ∈ attrs, ∀ w ∈ earlier, w.key ≠ a.1.toList) :
    attributes size earlier (attrs.flatMap writeAttr) = .ok attrs := by
  induction attrs generalizing earlier
  case nil => exact attributes_nil rfl
  case cons a attrs hi =>
    obtain ⟨ha, hnames⟩ := List.forall_mem_cons.mp hnames
    obtain ⟨hnew, hdistinct⟩ := List.nodup_cons.mp hdistinct
    obtain ⟨hfresh, hfreshs⟩ := List.forall_mem_cons.mp hfresh
    obtain ⟨c, cs, hkey, hc⟩ := exists_cons_of_isName ha
    rw [hkey] at ha hfresh
    obtain ⟨position, hnext⟩ := next_written size ha hfresh (quote_not_mem_escaped a.2.toList)
      (attrs.flatMap writeAttr)
    have hs : skipSpace ((a :: attrs).flatMap writeAttr) = c :: (cs ++ '=' :: '"' ::
        (a.2.toList.flatMap escape ++ '"' :: attrs.flatMap writeAttr)) := by
      have hspace : isSpace c = false := isSpace_of_isNameChar (isNameChar_of_isAlpha hc)
      simp [writeAttr, hkey, skipSpace, hspace, show isSpace ' ' from rfl]
    have hrest : ∀ b ∈ attrs, ∀ w ∈ earlier ++ [⟨c :: cs, position, a.2.toList.flatMap escape⟩],
        w.key ≠ b.1.toList := by
      intro b hb w hw
      obtain hw | hw := List.mem_append.mp hw
      case inl => exact hfreshs b hb w hw
      case inr =>
        rw [List.mem_singleton.mp hw, ← hkey]
        intro he
        exact hnew (List.mem_map.mpr ⟨b, hb, (String.toList_inj.mp he).symm⟩)
    rw [attributes_cons hs hnext (Reference.resolve_escaped _), hi hnames hdistinct hrest]
    rw [← hkey, String.ofList_toList, String.ofList_toList]
    rfl

theorem read_written {tag : String} {attrs : Attrs} (htag : isName tag.toList)
    (hnames : ∀ a ∈ attrs, isName a.1.toList) (hdistinct : (attrs.map (·.1)).Nodup) :
    Tag.read (tag.toList ++ attrs.flatMap writeAttr) = .ok (tag, attrs) := by
  have hname : ∀ c ∈ tag.toList, (!isSpace c) = true := fun c hc => by
    rw [isSpace_of_isNameChar (isNameChar_of_isName htag hc)]
    rfl
  have hspace : ∀ d ∈ (attrs.flatMap writeAttr).head?, (!isSpace d) = false := by
    cases attrs
    case nil => exact nofun
    case cons => exact fun d hd => Option.some.inj hd ▸ rfl
  have hattrs : ∀ size, attributes size [] (attrs.flatMap writeAttr) = .ok attrs :=
    fun size => attributes_written hnames hdistinct (by simp)
  have hend : Text.Longest (fun c => !isSpace c) tag.toList (attrs.flatMap writeAttr) :=
    ⟨hname, hspace⟩
  unfold Tag.read
  simp only [hend.takeWhile_eq, hend.dropWhile_eq, hattrs, bind, Except.bind, pure, Except.pure,
    String.ofList_toList]

end Tag

end UiMarkup.Markup
