import UiMarkup.Assoc
import UiMarkup.Build.Block

namespace UiMarkup.Block

def ofTag : Assoc String Block := [
  ("api",              .api),
  ("gradients",        .gradients),
  ("stop",             .stops),
  ("consts",           .consts),
  ("styles",           .styles),
  ("images",           .images),
  ("fonts",            .fonts),
  ("subjects",         .subjects),
  ("animation",        .animation),
  ("include_timeline", .includeTimeline),
  ("timeline",         .timeline),
  ("view",             .view)]

section Tags

variable {s : Block} {tag : String}

theorem begun?_eq : s.begun? tag =
    if tag = "stop" ∧ s ≠ .gradients then Option.none else Assoc.get? ofTag tag := by
  unfold begun?
  split
  case h_3 => by_cases hs : s = .gradients <;> simp [hs, ofTag, Assoc.get?]
  case h_13 => simp_all [ofTag, Assoc.get?, eq_comm]
  all_goals simp [ofTag, Assoc.get?]

theorem eq_stop_of_get?_ofTag (h : Assoc.get? ofTag tag = some .stops) : tag = "stop" := by
  have hstops : ∀ e ∈ ofTag, e.2 = .stops → e.1 = "stop" := by decide
  exact hstops _ (Assoc.mem_of_get? h) rfl

theorem stop_of_mem (h : tag ∈ leaving) : s.stop tag = .none :=
  if_pos h

end Tags

inductive Call
  | start (tag : String)
  | stop (tag : String)
deriving DecidableEq

def Call.run (s : Block) : Call → Block
  | start tag => s.start tag
  | stop tag  => s.stop tag

abbrev History := List Call

namespace History

def block : History → Block
  | []           => .none
  | c :: earlier => c.run (block earlier)

-- Whether `tag` begins a block after these calls; a `stop` does so among gradients only.
def Begins (h : History) (tag : String) : Prop :=
  tag ∈ ofTag.keys ∧ (tag = "stop" → h.block = .gradients)

-- A tag that began a block, and the calls since then, none of which left every block.
structure Opening (h : History) where
  later      : History
  tag        : String
  earlier    : History
  history_eq : h = later ++ .start tag :: earlier
  begins     : earlier.Begins tag
  inside     : ∀ t ∈ leaving, .stop t ∉ later

variable {h : History} {c : Call} {tag : String}

theorem isSome_begun?_iff : (h.block.begun? tag).isSome ↔ h.Begins tag := by
  rw [begun?_eq, Begins, Assoc.mem_keys_iff]
  by_cases hstop : tag = "stop" ∧ h.block ≠ .gradients
  case pos => simp [hstop]
  case neg =>
    have hstop' : tag = "stop" → h.block = .gradients := by simpa using hstop
    rw [if_neg hstop, and_iff_left hstop']

theorem get?_ofTag_of_begins (hb : h.Begins tag) :
    Assoc.get? ofTag tag = some (h.block.start tag) := by
  have ⟨s, hs⟩ := Option.isSome_iff_exists.mp (isSome_begun?_iff.mpr hb)
  have hstop : ¬(tag = "stop" ∧ h.block ≠ .gradients) := fun hn => hn.2 (hb.2 hn.1)
  rw [start, hs, Option.getD_some, ← hs, begun?_eq, if_neg hstop]

theorem start_of_not_begins (hb : ¬h.Begins tag) : h.block.start tag = h.block := by
  have hnone : h.block.begun? tag = Option.none := by simpa [← isSome_begun?_iff] using hb
  rw [start, hnone, Option.getD_none]

def Stays (c : Call) : Prop :=
  ∀ t ∈ leaving, c ≠ .stop t

namespace Opening

def IsLast (o : Opening h) : Prop :=
  ∀ o' : Opening h, o.later.length ≤ o'.later.length

-- A `stop` is over when another tag is closed.
def Ended (o : Opening h) : Prop :=
  o.tag = "stop" ∧ ∃ t, t ≠ "stop" ∧ .stop t ∈ o.later

theorem exists_isLast (o : Opening h) : ∃ o : Opening h, o.IsLast := by
  by_cases hlast : o.IsLast
  case pos => exact ⟨o, hlast⟩
  case neg =>
    have ⟨o', ho'⟩ : ∃ o' : Opening h, o'.later.length < o.later.length := by
      simpa [IsLast] using hlast
    exact exists_isLast o'
termination_by o.later.length

def now (hb : h.Begins tag) : Opening (.start tag :: h) where
  later      := []
  tag        := tag
  earlier    := h
  history_eq := rfl
  begins     := hb
  inside     := fun _ _ => List.not_mem_nil

def before (o : Opening h) (hc : Stays c) : Opening (c :: h) where
  later      := c :: o.later
  tag        := o.tag
  earlier    := o.earlier
  history_eq := congrArg (c :: ·) o.history_eq
  begins     := o.begins
  inside     := fun t ht hm =>
    (List.mem_cons.mp hm).elim (fun he => hc t ht he.symm) (o.inside t ht)

theorem now_or_before (o : Opening (c :: h)) :
    (o.later = [] ∧ c = .start o.tag ∧ h.Begins o.tag) ∨
    ∃ (o' : Opening h) (hc : Stays c), o = o'.before hc := by
  obtain ⟨later, tag, earlier, heq, hb, hinside⟩ := o
  cases later
  case nil =>
    obtain ⟨rfl, rfl⟩ := List.cons.inj heq
    exact .inl ⟨rfl, rfl, hb⟩
  case cons c' later =>
    obtain ⟨rfl, rfl⟩ := List.cons.inj heq
    have hc : Stays c := fun t ht he => hinside t ht (he ▸ .head _)
    exact .inr ⟨⟨later, tag, earlier, rfl, hb, fun t ht hm => hinside t ht (.tail _ hm)⟩, hc, rfl⟩

section Before

variable {o : Opening h} {hc : Stays c}

theorem IsLast.of_before (hlast : (o.before hc).IsLast) : o.IsLast :=
  fun o' => Nat.le_of_succ_le_succ (hlast (o'.before hc))

theorem IsLast.not_begins {hc : Stays (.start tag)} (hlast : (o.before hc).IsLast) :
    ¬h.Begins tag :=
  fun hb => Nat.not_succ_le_zero _ (hlast (now hb))

theorem ended_before_start {hc : Stays (.start tag)} : (o.before hc).Ended ↔ o.Ended := by
  simp [Ended, before]

theorem ended_before_stop {hc : Stays (.stop tag)} :
    (o.before hc).Ended ↔ o.Ended ∨ (o.tag = "stop" ∧ tag ≠ "stop") := by
  simp only [Ended, before, List.mem_cons, Call.stop.injEq]
  grind

end Before

-- The block of the tag, and gradients again when its stops are over.
structure Leads (o : Opening h) (s : Block) : Prop where
  lasting : ¬o.Ended → Assoc.get? ofTag o.tag = some s
  ended   : o.Ended → s = .gradients

theorem leads_now {o : Opening (c :: h)} (hlater : o.later = []) (hc : c = .start o.tag)
    (hb : h.Begins o.tag) : o.Leads (c.run h.block) where
  lasting := fun _ =>
    (get?_ofTag_of_begins hb).trans (congrArg (fun c => some (c.run h.block)) hc.symm)
  ended   := fun ⟨_, _, _, hm⟩ => absurd hm (hlater ▸ List.not_mem_nil)

theorem Leads.start {o : Opening h} {hc : Stays (.start tag)} (ho : o.Leads h.block)
    (hb : ¬h.Begins tag) : (o.before hc).Leads (h.block.start tag) := by
  rw [start_of_not_begins hb]
  constructor
  case lasting => exact fun hended => ho.lasting (mt ended_before_start.mpr hended)
  case ended   => exact fun hended => ho.ended (ended_before_start.mp hended)

theorem Leads.stop {o : Opening h} {hc : Stays (.stop tag)} (ho : o.Leads h.block) :
    (o.before hc).Leads (h.block.stop tag) := by
  have htag : tag ∉ leaving := fun ht => hc tag ht rfl
  have hstop : h.block.stop tag =
      if h.block = .stops ∧ tag ≠ "stop" then .gradients else h.block := if_neg htag
  rw [hstop]
  constructor
  case lasting =>
    intro hended
    have ⟨hopen, hkept⟩ := not_or.mp (mt ended_before_stop.mpr hended)
    have hget : Assoc.get? ofTag o.tag = some h.block := ho.lasting hopen
    have hnot : ¬(h.block = .stops ∧ tag ≠ "stop") := fun hs =>
      hkept ⟨eq_stop_of_get?_ofTag (hs.1 ▸ hget), hs.2⟩
    rwa [if_neg hnot]
  case ended =>
    intro hended
    by_cases hopen : o.Ended
    case pos => simp [ho.ended hopen]
    case neg =>
      have ⟨hotag, hne⟩ := (ended_before_stop.mp hended).resolve_left hopen
      have hget : Assoc.get? ofTag o.tag = some h.block := ho.lasting hopen
      have hblock : h.block = .stops := by simpa [hotag, ofTag, Assoc.get?, eq_comm] using hget
      rw [if_pos ⟨hblock, hne⟩]

theorem IsLast.leads {o : Opening h} (hlast : o.IsLast) : o.Leads h.block := by
  induction h
  case nil => exact absurd o.history_eq (by simp)
  case cons c h hi =>
    rcases o.now_or_before with ⟨hlater, hc, hb⟩ | ⟨o', hc, rfl⟩
    · exact leads_now hlater hc hb
    · have ho' : o'.Leads (block h) := hi hlast.of_before
      cases c
      case start tag => exact ho'.start hlast.not_begins
      case stop tag  => exact ho'.stop

end Opening

theorem block_of_no_opening (hno : ¬Nonempty (Opening h)) : h.block = .none := by
  induction h
  case nil => rfl
  case cons c h hi =>
    have hblock (hc : Stays c) : block h = .none := hi fun ⟨o⟩ => hno ⟨o.before hc⟩
    cases c
    case start tag =>
      have hb : ¬Begins h tag := fun hb => hno ⟨.now hb⟩
      exact (start_of_not_begins hb).trans (hblock fun _ _ => nofun)
    case stop tag =>
      by_cases htag : tag ∈ leaving
      case pos => exact stop_of_mem htag
      case neg =>
        have hb : block h = .none := hblock fun t ht he => htag (Call.stop.inj he ▸ ht)
        simp [block, Call.run, hb, Block.stop]

theorem block_tracked (h : History) :
    (¬Nonempty (Opening h) → h.block = .none) ∧
    (Nonempty (Opening h) → ∃ o : Opening h, o.IsLast) ∧
    (∀ o : Opening h, o.IsLast → o.Leads h.block) ∧
    ∀ tag, (h.block.begun? tag).isSome ↔ h.Begins tag :=
  ⟨block_of_no_opening, fun ⟨o⟩ => o.exists_isLast, fun _ => Opening.IsLast.leads,
    fun _ => isSome_begun?_iff⟩

theorem block_tracked_left_or_ended :
    block [.stop "params", .start "fonts"] = .none ∧
    ∃ o : Opening [.stop "linear_gradient", .start "stop", .start "gradients"],
      o.IsLast ∧ o.Ended ∧
      block [.stop "linear_gradient", .start "stop", .start "gradients"] = .gradients := by
  have hno : ¬Nonempty (Opening [.stop "params", .start "fonts"]) := by
    rintro ⟨o⟩
    rcases o.now_or_before with ⟨-, hc, -⟩ | ⟨-, hc, -⟩
    · cases hc
    · exact hc "params" (by decide) rfl
  let o : Opening [.stop "linear_gradient", .start "stop", .start "gradients"] := {
    later      := [.stop "linear_gradient"]
    tag        := "stop"
    earlier    := [.start "gradients"]
    history_eq := rfl
    begins     := ⟨by decide, fun _ => rfl⟩
    inside     := by decide }
  have hlast : o.IsLast := by
    intro o'
    rcases o'.now_or_before with ⟨-, hc, -⟩ | ⟨o'', hc, rfl⟩
    · cases hc
    · exact Nat.succ_le_succ (Nat.zero_le o''.later.length)
  have hended : o.Ended := ⟨rfl, "linear_gradient", by decide, .head _⟩
  obtain ⟨hnone, -⟩ := block_tracked [.stop "params", .start "fonts"]
  obtain ⟨-, -, hleads, -⟩ :=
    block_tracked [.stop "linear_gradient", .start "stop", .start "gradients"]
  exact ⟨hnone hno, o, hlast, hended, (hleads o hlast).ended hended⟩

end History

end UiMarkup.Block
