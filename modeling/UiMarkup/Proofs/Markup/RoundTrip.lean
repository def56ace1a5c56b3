import UiMarkup.Proofs.Markup.Delivery
import UiMarkup.Proofs.Markup.WrittenTags

namespace UiMarkup.Markup

open Forest (writeAttr writeTag)

-- Characters that a start tag may have in it: no `>` outside of quotes, and no quote is left open.
def Inside (s : List Char) : Prop :=
  ∀ rest, cutTag none (s ++ rest) = (cutTag none rest).map fun (t, r) => (s ++ t, r)

theorem cutTag_quoted {quote : Char} {s : List Char} (h : quote ∉ s) (rest : List Char) :
    cutTag (some quote) (s ++ quote :: rest) =
      (cutTag none rest).map fun (t, r) => (s ++ quote :: t, r) := by
  induction s
  case nil => simp [cutTag]
  case cons c cs hi =>
    obtain ⟨hc, hcs⟩ := List.ne_and_not_mem_of_not_mem_cons h
    rw [List.cons_append, cutTag, if_neg hc.symm, hi hcs, Option.map_map]
    rfl

namespace Inside

variable {s t : List Char}

theorem nil : Inside [] := fun rest => by
  simp

theorem append (hs : Inside s) (ht : Inside t) : Inside (s ++ t) := fun rest => by
  rw [List.append_assoc, hs, ht, Option.map_map]
  simp [Function.comp_def]

theorem plain {c : Char} (hend : c ≠ '>') (hdouble : c ≠ '"') (hsingle : c ≠ '\'') :
    Inside [c] := fun rest => by
  rw [List.singleton_append, cutTag, if_neg hend, if_neg (by simp [hdouble, hsingle])]
  rfl

theorem quoted (h : '"' ∉ s) : Inside ('"' :: (s ++ ['"'])) := fun rest => by
  rw [List.cons_append, List.append_assoc, List.singleton_append, cutTag, if_neg (by decide),
    if_pos (by decide), cutTag_quoted h, Option.map_map]
  simp [Function.comp_def]

theorem flatMap {α : Type} {f : α → List Char} {xs : List α} (h : ∀ x ∈ xs, Inside (f x)) :
    Inside (xs.flatMap f) := by
  induction xs
  case nil => exact nil
  case cons x xs hi =>
    obtain ⟨hx, hxs⟩ := List.forall_mem_cons.mp h
    exact hx.append (hi hxs)

theorem name (h : isName s) : Inside s := by
  have hplain : ∀ c ∈ s, Inside [c] := fun c hc =>
    have hname := isNameChar_of_isName h hc
    plain (ne_of_isNameChar hname (by decide)) (ne_of_isNameChar hname (by decide))
      (ne_of_isNameChar hname (by decide))
  simpa using flatMap hplain

theorem writeAttr {a : String × String} (h : isName a.1.toList) : Inside (writeAttr a) := by
  have hspace : Inside [' '] := plain (by decide) (by decide) (by decide)
  have hequals : Inside ['='] := plain (by decide) (by decide) (by decide)
  have hvalue := quoted (quote_not_mem_escaped a.2.toList)
  simpa [Forest.writeAttr] using hspace.append ((name h).append (hequals.append hvalue))

theorem cut (h : Inside s) (rest : List Char) :
    cutTag none (s ++ '>' :: rest) = some (s, rest) := by
  rw [h, cutTag, if_pos rfl]
  simp

end Inside

namespace Forest

def tagText (tag : String) (attrs : Attrs) : List Char :=
  tag.toList ++ attrs.flatMap writeAttr

def WellNamedTag (tag : String) (attrs : Attrs) : Prop :=
  isName tag.toList ∧ (∀ a ∈ attrs, isName a.1.toList) ∧ (attrs.map (·.1)).Nodup

instance {tag : String} {attrs : Attrs} : Decidable (WellNamedTag tag attrs) :=
  inferInstanceAs (Decidable (_ ∧ _ ∧ _))

def WellNamed : Forest → Prop :=
  Every WellNamedTag

instance {f : Forest} : Decidable f.WellNamed :=
  Every.decidable f

end Forest

open Forest (tagText WellNamedTag)

section Pieces

variable {tag : String} {attrs : Attrs}

theorem read_tagText (h : WellNamedTag tag attrs) :
    Tag.read (tagText tag attrs) = .ok (tag, attrs) :=
  Tag.read_written h.1 h.2.1 h.2.2

theorem inside_tagText (h : WellNamedTag tag attrs) : Inside (tagText tag attrs) :=
  (Inside.name h.1).append (.flatMap fun a ha => .writeAttr (h.2.1 a ha))

-- A start tag ends in a letter of its name or in a quote, so it is not read as one without a body.
theorem before_tagText (h : WellNamedTag tag attrs) :
    Text.before ['/'] (tagText tag attrs) = none := by
  refine Text.before_eq_none_iff.mpr fun hend => ?_
  have hlast : (tagText tag attrs).getLast? = some '/' := by
    obtain ⟨front, hfront⟩ := hend
    rw [← hfront, List.getLast?_append]
    rfl
  obtain rfl | ⟨as, a, rfl⟩ := attrs.eq_nil_or_concat
  case inl =>
    rw [tagText, List.flatMap_nil, List.append_nil] at hlast
    have hname := isNameChar_of_isName h.1 (List.mem_of_getLast? hlast)
    exact absurd hname (by decide)
  case inr =>
    let key := ' ' :: (a.1.toList ++ '=' :: '"' :: a.2.toList.flatMap Forest.escape)
    have hquote : tagText tag (as.concat a) =
        tag.toList ++ as.flatMap writeAttr ++ key ++ ['"'] := by
      simp [tagText, writeAttr, key]
    rw [hquote, List.getLast?_concat] at hlast
    exact absurd (Option.some.inj hlast) (by decide)

theorem piece_of_name {c : Char} (hc : c.isAlpha) (s : List Char) :
    piece (c :: s) = pieceOfTag (c :: s) := by
  have hne : ∀ d : Char, d.isAlpha = false → c ≠ d := by
    rintro d hd rfl
    exact Bool.false_ne_true (hd.symm.trans hc)
  have hmark := hne '!' (by decide)
  have hask := hne '?' (by decide)
  have hslash := hne '/' (by decide)
  unfold piece
  split <;> simp_all

theorem piece_tagText (h : WellNamedTag tag attrs) (s : List Char) :
    piece (tagText tag attrs ++ s) = pieceOfTag (tagText tag attrs ++ s) := by
  obtain ⟨c, cs, hname, hc⟩ := exists_cons_of_isName h.1
  rw [tagText, hname]
  exact piece_of_name hc _

theorem piece_opening (h : WellNamedTag tag attrs) (rest : List Char) :
    piece (tagText tag attrs ++ '>' :: rest) = .ok (.opening (tagText tag attrs), rest) := by
  rw [piece_tagText h, pieceOfTag, (inside_tagText h).cut]
  simp only [before_tagText h]

theorem piece_empty (h : WellNamedTag tag attrs) (rest : List Char) :
    piece (tagText tag attrs ++ '/' :: '>' :: rest) = .ok (.empty (tagText tag attrs), rest) := by
  have hslash : Inside (tagText tag attrs ++ ['/']) :=
    (inside_tagText h).append (.plain (by decide) (by decide) (by decide))
  have hcut := hslash.cut rest
  rw [List.append_assoc, List.singleton_append] at hcut
  rw [piece_tagText h, pieceOfTag, hcut]
  simp only [Text.before_append]

theorem closingName_of_isName {name : List Char} (h : isName name) : closingName name = name := by
  obtain ⟨c, cs, hcons, -⟩ := exists_cons_of_isName h
  have hblank : name.reverse.dropWhile Tag.isSpace = name.reverse := by
    cases hrev : name.reverse
    case nil => rfl
    case cons d ds =>
      have hd : d ∈ name := List.mem_reverse.mp (hrev ▸ List.mem_cons_self)
      have hspace : Tag.isSpace d = false := isSpace_of_isNameChar (isNameChar_of_isName h hd)
      rw [List.dropWhile_cons_of_neg (by simp [hspace])]
  rw [closingName, hblank, List.reverse_reverse, hcons]

theorem piece_closing (h : isName tag.toList) (rest : List Char) :
    piece ('/' :: (tag.toList ++ '>' :: rest)) = .ok (.closing tag.toList, rest) := by
  unfold piece
  simp only [(Inside.name h).cut, closingName_of_isName h]

end Pieces

open Scan (deliverFrom)

section Boundaries

variable {size : Nat} {opened : List String} {tag : String} {attrs : Attrs}

theorem toNextPiece_tag (s : List Char) : toNextPiece ('<' :: s) = '<' :: s := rfl

theorem eventsFrom_nil : eventsFrom size opened [] = ([], opened.head?.map .unclosed) := by
  rw [eventsFrom_eq_deliverFrom, pieces_nil rfl]
  rfl

theorem eventsFrom_opening (h : WellNamedTag tag attrs) (rest : List Char) :
    eventsFrom size opened ('<' :: (tagText tag attrs ++ '>' :: rest)) =
      (.opening tag attrs :: (eventsFrom size (tag :: opened) rest).1,
        (eventsFrom size (tag :: opened) rest).2) := by
  simp only [eventsFrom_eq_deliverFrom, pieces_ok (toNextPiece_tag _) (piece_opening h rest),
    compareEnds, deliverFrom, read_tagText h, Tag.name_of_read (read_tagText h)]

theorem eventsFrom_empty (h : WellNamedTag tag attrs) (rest : List Char) :
    eventsFrom size opened ('<' :: (tagText tag attrs ++ '/' :: '>' :: rest)) =
      (.opening tag attrs :: .closing tag :: (eventsFrom size opened rest).1,
        (eventsFrom size opened rest).2) := by
  simp only [eventsFrom_eq_deliverFrom, pieces_ok (toNextPiece_tag _) (piece_empty h rest),
    compareEnds, deliverFrom, read_tagText h]

theorem eventsFrom_closing (h : isName tag.toList) (rest : List Char) :
    eventsFrom size (tag :: opened) ('<' :: '/' :: (tag.toList ++ '>' :: rest)) =
      (.closing tag :: (eventsFrom size opened rest).1, (eventsFrom size opened rest).2) := by
  simp only [eventsFrom_eq_deliverFrom, pieces_ok (toNextPiece_tag _) (piece_closing h rest),
    compareEnds, String.ofList_toList, if_true, deliverFrom, List.tail_cons]

end Boundaries

-- By induction on the forest, in front of any text and inside of any elements: the body of an
-- element stands in front of its end tag and of all that comes after that.
theorem eventsFrom_write {f : Forest} (hf : f.WellNamed) (size : Nat) (opened : List String)
    (rest : List Char) :
    eventsFrom size opened (f.write ++ rest) =
      (f.events ++ (eventsFrom size opened rest).1, (eventsFrom size opened rest).2) := by
  induction f generalizing opened rest
  case empty => rfl
  case element tag attrs brief body after hbody hafter =>
    obtain ⟨htag, hfbody, hfafter⟩ := hf
    by_cases hbrief : brief ∧ body = .empty
    case pos =>
      have hwrite : (Forest.element tag attrs brief body after).write ++ rest =
          '<' :: (tagText tag attrs ++ '/' :: '>' :: (after.write ++ rest)) := by
        simp [Forest.write, hbrief, writeTag, tagText]
      rw [hwrite, eventsFrom_empty htag, hafter hfafter, hbrief.2]
      rfl
    case neg =>
      have hwrite : (Forest.element tag attrs brief body after).write ++ rest =
          '<' :: (tagText tag attrs ++ '>' :: (body.write ++
            '<' :: '/' :: (tag.toList ++ '>' :: (after.write ++ rest)))) := by
        simp [Forest.write, hbrief, writeTag, tagText]
      rw [hwrite, eventsFrom_opening htag, hbody hfbody, eventsFrom_closing htag.1, hafter hfafter]
      simp [Forest.events]

theorem withoutMark_write (f : Forest) : withoutMark f.write = f.write := by
  cases f <;> rfl

theorem read_write {f : Forest} (hf : f.WellNamed) :
    read (String.ofList f.write) = (f.events, none) := by
  have h := eventsFrom_write hf (Text.bytes f.write) [] []
  rw [List.append_nil] at h
  rw [read_ofList, withoutMark_write, h, eventsFrom_nil, List.append_nil]
  rfl

theorem read_write_label :
    let f : Forest := .element "view" [("long_mode", "dot"), ("text", "a<b & \"c'd\">é")] false
      (.element "label" [] true .empty (.element "label" [] false .empty .empty)) .empty
    let text := "<view long_mode=\"dot\" text=\"a&lt;b &amp; &quot;c&apos;d&quot;&gt;é\">" ++
      "<label/><label></label></view>"
    f.WellNamed ∧ String.ofList f.write = text ∧ read text = (f.events, none) := by
  intro f text
  have hf : f.WellNamed := by decide +kernel
  have hwrite : String.ofList f.write = text := by decide +kernel
  exact ⟨hf, hwrite, hwrite ▸ read_write hf⟩

end UiMarkup.Markup
