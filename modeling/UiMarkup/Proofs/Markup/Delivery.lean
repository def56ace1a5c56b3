import UiMarkup.Proofs.Markup.Nesting
import UiMarkup.Proofs.Markup.OpenElements

namespace UiMarkup.Markup

inductive Report
  | opening (text : List Char)
  | empty (text : List Char)     -- an element without a body
  | closing (tag : String)
  | aside

-- What is reported up to the end of a text, or up to a fault at some position.
structure Scan where
  reports : List Report
  fault   : Option (Nat × MarkupFault) := none

def Tag.name (text : List Char) : String :=
  .ofList (text.takeWhile (!Tag.isSpace ·))

namespace Report

def followed (opened : List String) : Report → List String
  | opening text => Tag.name text :: opened
  | empty _      => opened
  | closing _    => opened.tail
  | aside        => opened

def openNames (opened : List String) (reports : List Report) : List String :=
  reports.foldl followed opened

@[simp] theorem openNames_nil (opened : List String) : openNames opened [] = opened := rfl
@[simp] theorem openNames_cons (opened : List String) (r : Report) (reports : List Report) :
    openNames opened (r :: reports) = openNames (r.followed opened) reports := rfl

def EndsMatch (opened : List String) (reports : List Report) : Prop :=
  ∀ before tag after, reports = before ++ .closing tag :: after →
    (openNames opened before).head? = some tag

def Readable : Report → Prop
  | opening text => ∃ e, Tag.read text = .ok e
  | empty text   => ∃ e, Tag.read text = .ok e
  | _            => True

end Report

open Report (openNames EndsMatch)

namespace Scan

-- Nothing stops the delivery before the end of the text.
def Complete (scan : Scan) : Prop :=
  scan.fault = none ∧ ∀ r ∈ scan.reports, r.Readable

-- Delivers what is reported inside of open elements, innermost first.
def deliverFrom (fault : Option (Nat × MarkupFault)) (opened : List String) :
    List Report → List Event × Option Error
  | [] =>
    match fault with
    | some (position, fault) => ([], some (.markup position fault))
    | none                   => ([], opened.head?.map .unclosed)
  | .aside :: reports => deliverFrom fault opened reports
  | .closing tag :: reports =>
    let (events, error) := deliverFrom fault opened.tail reports
    (.closing tag :: events, error)
  | .opening text :: reports =>
    match Tag.read text with
    | .error error => ([], some error)
    | .ok (tag, attrs) =>
      let (events, error) := deliverFrom fault (tag :: opened) reports
      (.opening tag attrs :: events, error)
  | .empty text :: reports =>
    match Tag.read text with
    | .error error => ([], some error)
    | .ok (tag, attrs) =>
      let (events, error) := deliverFrom fault opened reports
      (.opening tag attrs :: .closing tag :: events, error)

def deliver (scan : Scan) : List Event × Option Error :=
  deliverFrom scan.fault [] scan.reports

end Scan

theorem Tag.name_of_read {text : List Char} {tag : String} {attrs : Attrs}
    (h : Tag.read text = .ok (tag, attrs)) : Tag.name text = tag := by
  simp only [Tag.read, bind, Except.bind, pure, Except.pure] at h
  split at h
  case h_1 => cases h
  case h_2 => cases h; rfl

theorem Tag.ne_unclosed_of_attributes {size : Nat} {earlier : List Tag.Written} {s : List Char}
    {error : Error} (h : Tag.attributes size earlier s = .error error) (tag : String) :
    error ≠ .unclosed tag := by
  fun_induction Tag.attributes size earlier s generalizing error
  case case1 => cases h
  case case2 => cases h; exact nofun
  case case3 => cases h; exact nofun
  case case4 hi =>
    refine hi ?_
    cases hrest : Tag.attributes _ _ _
    case error => rw [hrest] at h; cases h; rfl
    case ok    => rw [hrest] at h; cases h

theorem Tag.ne_unclosed_of_read {text : List Char} {error : Error}
    (h : Tag.read text = .error error) (tag : String) : error ≠ .unclosed tag := by
  simp only [Tag.read, bind, Except.bind, pure, Except.pure] at h
  split at h
  case h_1 hattrs => cases h; exact ne_unclosed_of_attributes hattrs tag
  case h_2        => cases h

def pieces (size : Nat) (s : List Char) : List (Nat × Piece) × Option (Nat × MarkupFault) :=
  match _hs : toNextPiece s with
  | [] => ([], none)
  | lt :: rest =>
    let position := positionOf size (lt :: rest)
    match _hp : piece rest with
    | .error (offset, fault) => ([], some (position + offset, fault))
    | .ok (p, next) =>
      let (ps, fault) := pieces size next
      ((position, p) :: ps, fault)
termination_by s.length
decreasing_by
  have h₁ := length_of_piece _hp
  have h₂ := Tag.length_dropWhile_le (· != '<') s
  unfold toNextPiece at _hs
  rw [_hs, List.length_cons] at h₂
  omega

def compareEnds (fault : Option (Nat × MarkupFault)) (opened : List String) :
    List (Nat × Piece) → Scan
  | [] => { reports := [], fault }
  | (_, .aside) :: ps =>
    let scan := compareEnds fault opened ps
    { scan with reports := .aside :: scan.reports }
  | (position, .closing name) :: ps =>
    let tag := String.ofList name
    match opened with
    | [] => { reports := [], fault := some (position, .unmatchedEnd tag) }
    | o :: outer =>
      if o = tag then
        let scan := compareEnds fault outer ps
        { scan with reports := .closing tag :: scan.reports }
      else { reports := [], fault := some (position, .mismatchedEnd o tag) }
  | (_, .opening text) :: ps =>
    let scan := compareEnds fault (Tag.name text :: opened) ps
    { scan with reports := .opening text :: scan.reports }
  | (_, .empty text) :: ps =>
    let scan := compareEnds fault opened ps
    { scan with reports := .empty text :: scan.reports }

def scan (text : String) : Scan :=
  let s := withoutMark text.toList
  let (ps, fault) := pieces (Text.bytes s) s
  compareEnds fault [] ps

section Pieces

variable {size : Nat} {s rest next : List Char} {lt : Char}

theorem pieces_nil (hs : toNextPiece s = []) : pieces size s = ([], none) := by
  rw [pieces]
  split
  case h_1 => rfl
  case h_2 hs' => cases hs.symm.trans hs'

theorem pieces_error {fault : PlacedFault} (hs : toNextPiece s = lt :: rest)
    (hp : piece rest = .error fault) :
    pieces size s = ([], some (positionOf size (lt :: rest) + fault.1, fault.2)) := by
  rw [pieces]
  split
  case h_1 hs' => cases hs.symm.trans hs'
  case h_2 hs' =>
    cases hs.symm.trans hs'
    dsimp only
    split
    case h_1 hp' => cases hp.symm.trans hp'; rfl
    case h_2 hp' => cases hp.symm.trans hp'

theorem pieces_ok {p : Piece} (hs : toNextPiece s = lt :: rest) (hp : piece rest = .ok (p, next)) :
    pieces size s = ((positionOf size (lt :: rest), p) :: (pieces size next).1,
      (pieces size next).2) := by
  rw [pieces]
  split
  case h_1 hs' => cases hs.symm.trans hs'
  case h_2 hs' =>
    cases hs.symm.trans hs'
    dsimp only
    split
    case h_1 hp' => cases hp.symm.trans hp'
    case h_2 hp' => cases hp.symm.trans hp'; rfl

end Pieces

open Scan (deliverFrom)

theorem eventsFrom_eq_deliverFrom (size : Nat) (opened : List String) (s : List Char) :
    eventsFrom size opened s =
      let scan := compareEnds (pieces size s).2 opened (pieces size s).1
      deliverFrom scan.fault opened scan.reports := by
  fun_induction eventsFrom size opened s
  case case1 hs              => rw [pieces_nil hs]; rfl
  case case2 hs offset fault hp => rw [pieces_error hs hp]; rfl
  case case3 hs next hp hi      => rw [pieces_ok hs hp]; exact hi
  case case4 hs name next hp tag =>
    rw [pieces_ok hs hp]
    rfl
  case case5 hs name next hp tag outer events error hrest hi =>
    rw [pieces_ok hs hp]
    simp only [compareEnds, tag, if_true, deliverFrom, List.tail_cons, ← hi, hrest]
  case case6 hs name next hp tag o outer hne =>
    rw [pieces_ok hs hp]
    change ¬o = String.ofList name at hne
    simp only [compareEnds, if_neg hne, deliverFrom, tag]
  case case7 hs text next hp error hread =>
    rw [pieces_ok hs hp]
    simp only [compareEnds, deliverFrom, hread]
  case case8 hs text next hp tag attrs hread events error hrest hi =>
    rw [pieces_ok hs hp]
    simp only [compareEnds, deliverFrom, hread, Tag.name_of_read hread, ← hi, hrest]
  case case9 hs text next hp error hread =>
    rw [pieces_ok hs hp]
    simp only [compareEnds, deliverFrom, hread]
  case case10 hs text next hp tag attrs hread events error hrest hi =>
    rw [pieces_ok hs hp]
    simp only [compareEnds, deliverFrom, hread, ← hi, hrest]

theorem read_eq_deliver (text : String) : read text = (scan text).deliver :=
  eventsFrom_eq_deliverFrom _ _ _

theorem Completes.closings : (opened : List String) → Completes opened (opened.map .closing)
  | []           => .nil
  | tag :: outer => (closings outer).close tag

namespace Report.EndsMatch

variable {opened : List String} {r : Report} {reports : List Report}

theorem nil : EndsMatch opened [] := by
  intro before tag after h
  simp at h

theorem cons (h : EndsMatch (followed opened r) reports)
    (hclosing : ∀ tag, r = .closing tag → opened.head? = some tag) :
    EndsMatch opened (r :: reports) := by
  intro before tag after heq
  cases before
  case nil => exact hclosing tag (List.cons.inj heq).1
  case cons r' before =>
    obtain ⟨rfl, hreports⟩ := List.cons.inj heq
    exact h before tag after hreports

theorem tail (h : EndsMatch opened (r :: reports)) : EndsMatch (followed opened r) reports := by
  intro before tag after heq
  exact h (r :: before) tag after (congrArg (r :: ·) heq)

theorem head {tag : String} (h : EndsMatch opened (.closing tag :: reports)) :
    opened.head? = some tag :=
  h [] tag reports rfl

end Report.EndsMatch

theorem endsMatch_compareEnds (fault : Option (Nat × MarkupFault)) (opened : List String)
    (ps : List (Nat × Piece)) : EndsMatch opened (compareEnds fault opened ps).reports := by
  fun_induction compareEnds fault opened ps
  case case1 => exact .nil
  case case2 hi => exact .cons hi (by simp)
  case case3 => exact .nil
  case case4 hi => exact .cons hi (by simp)
  case case5 => exact .nil
  case case6 hi => exact .cons hi (by simp)
  case case7 hi => exact .cons hi (by simp)

namespace Scan

variable {fault : Option (Nat × MarkupFault)} {opened : List String} {reports : List Report}

-- What is delivered can be completed to a document, and is one unless an error is.
theorem completes_deliverFrom (h : EndsMatch opened reports) :
    ∃ left, Completes opened ((deliverFrom fault opened reports).1 ++ left) ∧
      ((deliverFrom fault opened reports).2 = none → left = []) := by
  fun_induction deliverFrom fault opened reports
  case case1 => exact ⟨_, .closings _, nofun⟩
  case case2 =>
    refine ⟨_, .closings _, fun herror => ?_⟩
    rw [List.head?_eq_none_iff.mp (Option.map_eq_none_iff.mp herror)]
    rfl
  case case3 hi => exact hi h.tail
  case case4 opened tag reports events error hrest hi =>
    obtain ⟨outer, rfl⟩ : ∃ outer, opened = tag :: outer := List.head?_eq_some_iff.mp h.head
    obtain ⟨left, hleft, hnone⟩ := hi h.tail
    rw [hrest] at hleft hnone
    exact ⟨left, hleft.close tag, hnone⟩
  case case5 => exact ⟨_, .closings _, nofun⟩
  case case6 hread events error hrest hi =>
    have hname := Tag.name_of_read hread
    obtain ⟨left, hleft, hnone⟩ := hi (hname ▸ h.tail)
    rw [hrest] at hleft hnone
    exact ⟨left, hleft.opening _, hnone⟩
  case case7 => exact ⟨_, .closings _, nofun⟩
  case case8 hread events error hrest hi =>
    obtain ⟨left, hleft, hnone⟩ := hi h.tail
    rw [hrest] at hleft hnone
    exact ⟨left, hleft.element _ _ .empty, hnone⟩

theorem unclosed_deliverFrom_iff (tag : String) :
    (deliverFrom fault opened reports).2 = some (.unclosed tag) ↔
      (fault = none ∧ ∀ r ∈ reports, r.Readable) ∧ (openNames opened reports).head? = some tag := by
  fun_induction deliverFrom fault opened reports
  case case1 hfault => simp [hfault]
  case case2 hfault => simp [hfault]
  case case3 hi => simpa [Report.Readable, Report.followed] using hi
  case case4 hrest hi => simpa [Report.Readable, Report.followed, hrest] using hi
  case case5 hread =>
    have hne := Tag.ne_unclosed_of_read hread tag
    simp [Report.Readable, hread, hne]
  case case6 hread _ _ hrest hi =>
    have hname := Tag.name_of_read hread
    simpa [Report.Readable, Report.followed, hread, hrest, hname] using hi
  case case7 hread =>
    have hne := Tag.ne_unclosed_of_read hread tag
    simp [Report.Readable, hread, hne]
  case case8 hread _ _ hrest hi =>
    simpa [Report.Readable, Report.followed, hread, hrest] using hi

theorem openFrom_deliverFrom (h : ∀ r ∈ reports, r.Readable) (before : List Event)
    {outer : List Element} (houter : outer.map (·.tag) = opened) :
    (openFrom before outer (deliverFrom fault opened reports).1).map (·.tag) =
      openNames opened reports := by
  fun_induction deliverFrom fault opened reports generalizing before outer
  case case1 => exact houter
  case case2 => exact houter
  case case3 hi => exact hi (List.forall_mem_cons.mp h).2 before houter
  case case4 hrest hi =>
    rw [hrest] at hi
    exact hi (List.forall_mem_cons.mp h).2 _ (by rw [followed, List.map_tail, houter])
  case case5 hread =>
    obtain ⟨⟨e, he⟩, -⟩ := List.forall_mem_cons.mp h
    cases hread.symm.trans he
  case case6 hread _ _ hrest hi =>
    rw [hrest] at hi
    rw [Report.openNames_cons, Report.followed, Tag.name_of_read hread]
    exact hi (List.forall_mem_cons.mp h).2 _ (congrArg (_ :: ·) houter)
  case case7 hread =>
    obtain ⟨⟨e, he⟩, -⟩ := List.forall_mem_cons.mp h
    cases hread.symm.trans he
  case case8 hread _ _ hrest hi =>
    rw [hrest] at hi
    exact hi (List.forall_mem_cons.mp h).2 _ houter

variable (scan : Scan)

theorem completes_deliver (h : EndsMatch [] scan.reports) :
    ∃ left, Completes [] (scan.deliver.1 ++ left) ∧ (scan.deliver.2 = none → left = []) :=
  completes_deliverFrom h

theorem unclosed_deliver_iff (tag : String) :
    scan.deliver.2 = some (.unclosed tag) ↔
      scan.Complete ∧ (openNames [] scan.reports).head? = some tag :=
  unclosed_deliverFrom_iff tag

theorem openElements_deliver (h : scan.Complete) :
    (openElements scan.deliver.1).map (·.tag) = openNames [] scan.reports :=
  openFrom_deliverFrom h.2 [] rfl

end Scan

-- A reader that compares the name of every end tag with that of the innermost open element.
def ChecksEnds (reader : String → Scan) : Prop :=
  ∀ text, EndsMatch [] (reader text).reports

theorem checksEnds_scan : ChecksEnds scan :=
  fun _ => endsMatch_compareEnds _ _ _

-- With such a reader, what is delivered of a text is the beginning of a document, and all of one
-- unless there is an error. The name in the error for an open element is that of the innermost one
-- at the end of the text. Documents are read by this delivery, from a reader of that kind.
theorem delivered_well_nested :
    (∀ text, read text = (scan text).deliver) ∧ ChecksEnds scan ∧
    ∀ reader, ChecksEnds reader → ∀ text events error, (reader text).deliver = (events, error) →
      (∃ f : Forest, events <+: f.events) ∧
      (error = none → ∃ f : Forest, events = f.events) ∧
      (∀ tag, error = some (.unclosed tag) ↔
        (reader text).Complete ∧ (openElements events).head?.map (·.tag) = some tag) ∧
      ((reader text).Complete →
        (openElements events).map (·.tag) = openNames [] (reader text).reports) := by
  refine ⟨read_eq_deliver, checksEnds_scan, fun reader h text events error hdeliver => ?_⟩
  obtain ⟨left, hleft, hnone⟩ := (reader text).completes_deliver (h text)
  have hunclosed := (reader text).unclosed_deliver_iff
  have hopen := (reader text).openElements_deliver
  rw [hdeliver] at hleft hnone hunclosed hopen
  obtain ⟨f, hf⟩ := hleft.exists_forest
  refine ⟨⟨f, left, hf⟩, fun herror => ⟨f, ?_⟩, fun tag => ?_, hopen⟩
  case refine_1 =>
    rw [hnone herror, List.append_nil] at hf
    exact hf
  case refine_2 =>
    refine (hunclosed tag).trans (and_congr_right fun hc => ?_)
    rw [← List.head?_map, hopen hc]

theorem delivered_well_nested_open :
    let text := "<a><b/>"
    ChecksEnds scan ∧
    (scan text).deliver =
      ([.opening "a" [], .opening "b" [], .closing "b"], some (.unclosed "a")) ∧
    (scan text).Complete ∧ openNames [] (scan text).reports = ["a"] := by
  intro text
  have hdeliver : (scan text).deliver =
      ([.opening "a" [], .opening "b" [], .closing "b"], some (.unclosed "a")) := by decide +kernel
  obtain ⟨-, hchecks, hreaders⟩ := delivered_well_nested
  obtain ⟨-, -, hunclosed, hopen⟩ := hreaders scan hchecks text _ _ hdeliver
  have hcomplete := ((hunclosed "a").mp rfl).1
  exact ⟨hchecks, hdeliver, hcomplete, (hopen hcomplete).symm⟩

end UiMarkup.Markup
