import UiMarkup.Reading

namespace UiMarkup

open Coord (contentTrack lastTrack share)

namespace Coord

theorem share_eq_lastTrack_iff {n : Int} : share n = lastTrack ↔ 100 ≤ n := by
  change (536870811 + (if n < 0 then 0 else if 100 < n then 100 else n) : Int) = 536870911 ↔ _
  split
  case isTrue => omega
  case isFalse => split <;> omega

theorem contentTrack_lt_lastTrack : contentTrack < lastTrack := by decide

-- What is left of a list for those who read it up to the first closing number.
def listed (list : List Coord) : List Coord :=
  list.takeWhile (· != lastTrack)

variable {tracks rest : List Coord}

theorem lastTrack_not_mem_listed (list : List Coord) : lastTrack ∉ listed list := by
  intro h
  have hopen := List.all_eq_true.mp (List.all_takeWhile (p := (· != lastTrack))) _ h
  exact bne_iff_ne.mp hopen rfl

theorem listed_append_lastTrack (h : lastTrack ∉ tracks) :
    listed (tracks ++ lastTrack :: rest) = tracks := by
  have hopen : ∀ track ∈ tracks, (track != lastTrack) = true := fun track htrack =>
    bne_iff_ne.mpr fun he => h (he ▸ htrack)
  rw [listed, List.takeWhile_append_of_pos hopen, List.takeWhile_cons_of_neg (by simp),
    List.append_nil]

end Coord

namespace Reading

inductive Asks : String → Int → Prop
  | called (s : String) : Asks ("fr(" ++ s ++ ")") (int s)
  | counted (s : String) : Asks (s ++ "fr") (int s)

-- A word for a track: as large as its content, shares, or pixels below the other two.
inductive IsTrack : String → Prop
  | content : IsTrack "content"
  | shares {w : String} {n : Int} : Asks w n → IsTrack w
  | pixels {w : String} : 0 ≤ int w → int w < contentTrack → IsTrack w

def Oversized (w : String) : Prop :=
  ∃ n, Asks w n ∧ 100 ≤ n

variable {s w : String} {n : Int}

theorem gridTrack_of_asks (h : Asks w n) : gridTrack w = share n := by
  cases h
  case called s =>
    rw [gridTrack, String.append_assoc, Text.after?_append, Option.bind_some, Text.before?_append]
  case counted s =>
    have hnone : (Text.after? "fr(" (s ++ "fr")).bind (Text.before? ")") = none := by
      refine Option.bind_eq_none_iff.mpr fun rest hrest => ?_
      refine Text.before?_eq_none_iff.mpr fun hend => ?_
      have hword : (s ++ "fr").toList = "fr(".toList ++ rest.toList := by
        rw [Text.eq_append_of_after? hrest, String.toList_append]
      obtain ⟨front, hfront⟩ := hend.trans (List.suffix_append "fr(".toList rest.toList)
      simpa using congrArg List.getLast? (hfront.trans hword.symm)
    rw [gridTrack, hnone, Text.before?_append]

theorem gridTrack_of_not_asks (h : ∀ n, ¬Asks w n) :
    gridTrack w = if w = "content" then contentTrack else int w := by
  have hcalled : (Text.after? "fr(" w).bind (Text.before? ")") = none := by
    refine Option.eq_none_iff_forall_ne_some.mpr fun n hn => ?_
    obtain ⟨rest, hrest, hn⟩ := Option.bind_eq_some_iff.mp hn
    have hword : w = "fr(" ++ n ++ ")" := by
      rw [Text.eq_append_of_after? hrest, Text.eq_append_of_before? hn, String.append_assoc]
    exact h (int n) (by rw [hword]; exact .called n)
  have hcounted : Text.before? "fr" w = none := by
    refine Option.eq_none_iff_forall_ne_some.mpr fun n hn => ?_
    exact h (int n) (by rw [Text.eq_append_of_before? hn]; exact .counted n)
  rw [gridTrack, hcalled, hcounted]

theorem gridTrack_eq_lastTrack_iff (h : IsTrack w) : gridTrack w = lastTrack ↔ Oversized w := by
  constructor
  case mpr =>
    rintro ⟨n, hasks, hn⟩
    rw [gridTrack_of_asks hasks, Coord.share_eq_lastTrack_iff.mpr hn]
  case mp =>
    intro hlast
    by_cases hasks : ∃ n, Asks w n
    case pos =>
      obtain ⟨n, hasks⟩ := hasks
      rw [gridTrack_of_asks hasks] at hlast
      exact ⟨n, hasks, Coord.share_eq_lastTrack_iff.mp hlast⟩
    case neg =>
      refine absurd hlast (Int.ne_of_lt ?_)
      rw [gridTrack_of_not_asks (not_exists.mp hasks)]
      split
      case isTrue => exact Coord.contentTrack_lt_lastTrack
      case isFalse hcontent =>
        cases h
        case content => exact absurd rfl hcontent
        case shares n h => exact absurd ⟨n, h⟩ hasks
        case pixels hlt => exact Int.lt_trans hlt Coord.contentTrack_lt_lastTrack

theorem lastTrack_not_mem_map_iff {ws : List String} (h : ∀ w ∈ ws, IsTrack w) :
    lastTrack ∉ ws.map gridTrack ↔ ∀ w ∈ ws, ¬Oversized w := by
  rw [List.mem_map, not_exists]
  refine forall_congr' fun w => ?_
  rw [not_and]
  exact forall_congr' fun hw => not_congr (gridTrack_eq_lastTrack_iff (h w hw))

-- One number for each word and one for the end. The second part is for lists with a word that asks
-- for too much: whatever is behind it is never looked at.
theorem listed_gridTracks (h : ∀ w ∈ Text.words s, IsTrack w) :
    (∃ tracks, gridTracks s = tracks ++ [lastTrack] ∧
      tracks.length = (Text.words s).length ∧
      (lastTrack ∉ tracks ↔ ∀ w ∈ Text.words s, ¬Oversized w) ∧
      (Coord.listed (gridTracks s) = tracks ↔ ∀ w ∈ Text.words s, ¬Oversized w)) ∧
    ∀ before w after, Text.words s = before ++ w :: after → (∀ v ∈ before, ¬Oversized v) →
      Oversized w → Coord.listed (gridTracks s) = before.map gridTrack := by
  have hiff := lastTrack_not_mem_map_iff h
  refine ⟨⟨(Text.words s).map gridTrack, rfl, List.length_map .., hiff, ?whole⟩, ?cut⟩
  case whole =>
    rw [← hiff]
    refine ⟨fun hall => ?_, Coord.listed_append_lastTrack⟩
    exact hall ▸ Coord.lastTrack_not_mem_listed (gridTracks s)
  case cut =>
    intro before w after hwords hbefore hw
    rw [hwords] at h
    have hfirst : gridTrack w = lastTrack := (gridTrack_eq_lastTrack_iff (h w (by simp))).mpr hw
    have hopen : lastTrack ∉ before.map gridTrack :=
      (lastTrack_not_mem_map_iff fun v hv => h v (by simp [hv])).mpr hbefore
    rw [gridTracks, hwords, List.map_append, List.map_cons, hfirst, List.append_assoc,
      List.cons_append, Coord.listed_append_lastTrack hopen]

theorem listed_gridTracks_three :
    Text.words "fr(3) 120fr content" = ["fr(3)", "120fr", "content"] ∧
      Coord.listed (gridTracks "fr(3) 120fr content") = [share 3] := by
  have hwords : Text.words "fr(3) 120fr content" = ["fr(3)", "120fr", "content"] := by
    decide +kernel
  have hthree : Asks "fr(3)" 3 := .called "3"
  have hmany : Asks "120fr" 120 := .counted "120"
  have h : ∀ w ∈ Text.words "fr(3) 120fr content", IsTrack w := by
    rw [hwords, List.forall_mem_cons, List.forall_mem_cons, List.forall_mem_singleton]
    exact ⟨.shares hthree, .shares hmany, .content⟩
  have hbefore : ∀ v ∈ ["fr(3)"], ¬Oversized v := by
    rw [List.forall_mem_singleton, ← gridTrack_eq_lastTrack_iff (.shares hthree)]
    decide +kernel
  refine ⟨hwords, ((listed_gridTracks h).2 ["fr(3)"] "120fr" ["content"] hwords hbefore
    ⟨120, hmany, by decide⟩).trans ?_⟩
  exact congrArg ([·]) (gridTrack_of_asks hthree)

theorem hundred_shares_close_list :
    (∀ w ∈ Text.words "fr(100) 10", IsTrack w) ∧
      gridTracks "fr(100) 10" = [lastTrack, 10, lastTrack] ∧
      Coord.listed (gridTracks "fr(100) 10") = [] := by
  refine ⟨?_, by decide +kernel, by decide +kernel⟩
  have hwords : Text.words "fr(100) 10" = ["fr(100)", "10"] := by decide +kernel
  rw [hwords, List.forall_mem_cons, List.forall_mem_singleton]
  exact ⟨.shares (.called "100"), .pixels (by decide +kernel) (by decide +kernel)⟩

end Reading

end UiMarkup
