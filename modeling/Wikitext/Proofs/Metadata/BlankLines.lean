import Wikitext.Metadata
import Wikitext.Proofs.Category.Link
import Wikitext.Proofs.Pattern.Preference
import Wikitext.Proofs.Text.Feeds

/-!
# Excess blank lines

Where a match of excess blank lines stops no further line break follows, so the two line feeds in
its place do not become part of others (`free_excess`): no excess blank lines are left.
-/

namespace Wikitext.Metadata

open Pattern Category

-- -----------------------------------------------------------------------------------------
-- Line breaks
-- -----------------------------------------------------------------------------------------

/-- A number of line breaks, with gaps anywhere between them. -/
inductive Breaks : Nat → Text → Prop
  | nil : Breaks 0 []
  | gap : inGap c = true → Breaks n t → Breaks n (c :: t)
  | feed : Breaks n t → Breaks (n + 1) ('\n' :: t)
  | pair : Breaks n t → Breaks (n + 1) ('\r' :: '\n' :: t)

/-- Three line breaks and more, from a line feed on. -/
inductive Excess : Text → Prop
  | intro : 2 ≤ n → Breaks n t → Excess ('\n' :: t)

/-- No line break or gap begins there. -/
def Inert (r : Text) : Prop := ∀ n y, Breaks n y → y <+: r → y = []

/-- No line break comes next, in front of anything but gaps. -/
def Ended (r : Text) : Prop := ∀ n y, Breaks n y → y <+: r → n = 0

theorem Inert.ended (h : Inert r) : Ended r := by
  intro n y hy hprefix
  obtain rfl := h n y hy hprefix
  cases hy
  rfl

namespace Breaks

theorem append (h : Breaks n s) (h' : Breaks m t) : Breaks (n + m) (s ++ t) := by
  induction h with
  | nil => rwa [Nat.zero_add]
  | gap hc _ ih => exact ih.gap hc
  | feed _ ih =>
    rw [Nat.add_right_comm]
    exact ih.feed
  | pair _ ih =>
    rw [Nat.add_right_comm]
    exact ih.pair

theorem of_gap (h : Gap g) : Breaks 0 g := by
  induction g with
  | nil => exact .nil
  | cons c g ih =>
    rw [Gap, List.forall_mem_cons] at h
    exact (ih h.2).gap h.1

theorem blank (h : Breaks n t) : Blank t := by
  have hfeed : Chars.isBlank '\n' = true := by decide
  have hreturn : Chars.isBlank '\r' = true := by decide
  induction h with
  | nil => exact blank_nil
  | @gap c _ t hc _ ih =>
    have hgap : Gap [c] := by simpa [Gap] using hc
    exact hgap.blank.append ih
  | feed _ ih => exact List.forall_mem_cons.mpr ⟨hfeed, ih⟩
  | pair _ ih => exact List.forall_mem_cons.mpr ⟨hreturn, List.forall_mem_cons.mpr ⟨hfeed, ih⟩⟩

/-- What stands behind a line feed can be exchanged. -/
theorem exchange (h : Breaks n (u ++ '\n' :: x)) (ht : Breaks m t) :
    ∃ k, m < k ∧ Breaks k (u ++ '\n' :: t) := by
  generalize hz : u ++ '\n' :: x = z at h
  induction h generalizing u with
  | nil => simp at hz
  | gap hc _ ih =>
    cases u with
    | nil =>
      obtain ⟨rfl, -⟩ := List.cons.inj hz
      cases hc
    | cons d u =>
      obtain ⟨rfl, hu⟩ := List.cons.inj hz
      obtain ⟨k, hk, h⟩ := ih hu
      exact ⟨k, hk, h.gap hc⟩
  | feed _ ih =>
    cases u with
    | nil => exact ⟨m + 1, Nat.lt_succ_self m, ht.feed⟩
    | cons d u =>
      obtain ⟨rfl, hu⟩ := List.cons.inj hz
      obtain ⟨k, hk, h⟩ := ih hu
      exact ⟨k + 1, Nat.lt_succ_of_lt hk, h.feed⟩
  | pair _ ih =>
    rcases u with _ | ⟨d, _ | ⟨e, u⟩⟩
    · cases hz
    · obtain ⟨rfl, -⟩ := List.cons.inj hz
      exact ⟨m + 1, Nat.lt_succ_self m, ht.pair⟩
    · simp only [List.cons_append, List.cons.injEq] at hz
      obtain ⟨rfl, rfl, hu⟩ := hz
      obtain ⟨k, hk, h⟩ := ih hu
      exact ⟨k + 1, Nat.lt_succ_of_lt hk, h.pair⟩

/-- Line breaks do not go on where they have ended. -/
theorem le_of_ended (h : Breaks n y) (hr : Ended r) (hy : y <+: feeds k ++ r) : n ≤ k := by
  induction k generalizing n y with
  | zero => exact Nat.le_of_eq (hr n y h hy)
  | succ k ih =>
    have hsucc : feeds (k + 1) = '\n' :: feeds k := rfl
    rw [hsucc, List.cons_append] at hy
    cases h with
    | nil => exact Nat.zero_le _
    | gap hc =>
      obtain ⟨rfl, -⟩ := List.cons_prefix_cons.mp hy
      cases hc
    | feed h => exact Nat.succ_le_succ (ih h (List.cons_prefix_cons.mp hy).2)
    | pair =>
      have hhead := (List.cons_prefix_cons.mp hy).1
      simp at hhead

end Breaks

theorem Excess.breaks (h : Excess e) : ∃ n, 3 ≤ n ∧ Breaks n e := by
  obtain ⟨hn, ht⟩ := h
  exact ⟨_, Nat.succ_le_succ hn, ht.feed⟩

theorem Excess.blank (h : Excess e) : Blank e := by
  obtain ⟨n, -, h⟩ := h.breaks
  exact h.blank

/-- Line breaks in front of excess ones belong to them. -/
theorem Excess.prepend (h : Breaks n ('\n' :: u ++ '\n' :: x)) (he : Excess e) :
    Excess ('\n' :: u ++ e) := by
  obtain ⟨hm, ht⟩ := he
  cases h with
  | gap hc => cases hc
  | feed h =>
    obtain ⟨k, hk, h⟩ := h.exchange ht
    exact .intro (by omega) h

-- -----------------------------------------------------------------------------------------
-- The pattern of excess blank lines
-- -----------------------------------------------------------------------------------------

def lineBreak : Pattern := opt (lit "\r") ++ lit "\n" ++ gap

def excess : Pattern := lit "\n" ++ gap ++ atLeast 2 lineBreak

theorem lexical_excess : excess.Lexical where
  steady := by decide
  nullable := by decide
  anchorless := by decide

theorem words_lineBreak : lineBreak.Words w ↔
    ∃ g, Gap g ∧ (w = '\n' :: g ∨ w = '\r' :: '\n' :: g) := by
  have hfeed : ∀ w gs, (lit "\n").Forms w gs ↔ w = ['\n'] ∧ gs = [] := fun _ _ => forms_ofText
  constructor
  · rintro ⟨gs, h⟩
    obtain ⟨_, g, _, _, rfl, -, h', hgap⟩ := (forms_append rfl rfl).mp h
    obtain ⟨_, _, _, _, rfl, -, hopt, hlit⟩ := (forms_append rfl rfl).mp h'
    obtain ⟨rfl, -⟩ := (hfeed _ _).mp hlit
    obtain ⟨hg, -⟩ := forms_gap.mp hgap
    refine ⟨g, hg, ?_⟩
    rcases forms_opt.mp hopt with ⟨rfl, -⟩ | hreturn
    · exact .inl rfl
    · obtain ⟨rfl, -⟩ := forms_ofText.mp hreturn
      exact .inr rfl
  · rintro ⟨g, hg, h⟩
    have hall : ∀ u, (opt (lit "\r")).Forms u [] → lineBreak.Forms (u ++ ['\n'] ++ g) [] :=
      fun u hu => (forms_append rfl rfl).mpr ⟨_, g, [], [], rfl, rfl,
        (forms_append rfl rfl).mpr ⟨u, ['\n'], [], [], rfl, rfl, hu, (hfeed _ _).mpr ⟨rfl, rfl⟩⟩,
        forms_gap.mpr ⟨hg, rfl⟩⟩
    rcases h with rfl | rfl
    · exact ⟨[], hall [] (forms_opt.mpr (.inl ⟨rfl, rfl⟩))⟩
    · exact ⟨[], hall ['\r'] (forms_opt.mpr (.inr (forms_ofText.mpr ⟨rfl, rfl⟩)))⟩

theorem breaks_of_lineBreak (h : lineBreak.Words w) : Breaks 1 w := by
  obtain ⟨g, hg, rfl | rfl⟩ := words_lineBreak.mp h
  · exact (Breaks.of_gap hg).feed
  · exact (Breaks.of_gap hg).pair

theorem breaks_flatten {rs : List Text} (h : ∀ r ∈ rs, Breaks 1 r) : Breaks rs.length rs.flatten := by
  induction rs with
  | nil => exact .nil
  | cons r rs ih =>
    rw [List.forall_mem_cons] at h
    rw [List.length_cons, Nat.add_comm]
    exact h.1.append (ih h.2)

theorem Breaks.exists_lines (h : Breaks n t) : ∃ (g : Text) (rs : List Text), Gap g ∧
    (∀ r ∈ rs, lineBreak.Words r) ∧ rs.length = n ∧ t = g ++ rs.flatten := by
  have hnone : Gap [] := by simp [Gap]
  induction h with
  | nil => exact ⟨[], [], hnone, by simp, rfl, rfl⟩
  | gap hc _ ih =>
    obtain ⟨g, rs, hg, hrs, hn, rfl⟩ := ih
    exact ⟨_ :: g, rs, List.forall_mem_cons.mpr ⟨hc, hg⟩, hrs, hn, rfl⟩
  | feed _ ih =>
    obtain ⟨g, rs, hg, hrs, rfl, rfl⟩ := ih
    have hone := words_lineBreak.mpr ⟨g, hg, .inl rfl⟩
    exact ⟨[], _ :: rs, hnone, List.forall_mem_cons.mpr ⟨hone, hrs⟩, rfl, by simp⟩
  | pair _ ih =>
    obtain ⟨g, rs, hg, hrs, rfl, rfl⟩ := ih
    have hone := words_lineBreak.mpr ⟨g, hg, .inr rfl⟩
    exact ⟨[], _ :: rs, hnone, List.forall_mem_cons.mpr ⟨hone, hrs⟩, rfl, by simp⟩

theorem words_excess : excess.Words w ↔ Excess w := by
  constructor
  · rintro ⟨gs, h⟩
    obtain ⟨_, _, _, _, rfl, -, h', hrounds⟩ := (forms_append rfl rfl).mp h
    obtain ⟨_, g, _, _, rfl, -, hlit, hgap⟩ := (forms_append rfl rfl).mp h'
    obtain ⟨rfl, -⟩ := forms_ofText.mp hlit
    obtain ⟨hg, -⟩ := forms_gap.mp hgap
    obtain ⟨rs, hrs, hn, rfl⟩ := hrounds.rounds rfl
    have hall := (Breaks.of_gap hg).append (breaks_flatten fun r hr => breaks_of_lineBreak (hrs r hr))
    rw [Nat.zero_add] at hall
    exact .intro hn hall
  · rintro ⟨hn, ht⟩
    obtain ⟨g, rs, hg, hrs, rfl, rfl⟩ := ht.exists_lines
    obtain ⟨gs, hrounds⟩ : (atLeast 2 lineBreak).Words rs.flatten := words_rounds rfl hrs hn
    exact ⟨_, (forms_append rfl rfl).mpr ⟨'\n' :: g, _, _, _, rfl, rfl,
      (forms_append rfl rfl).mpr ⟨['\n'], g, [], [], rfl, rfl, forms_ofText.mpr ⟨rfl, rfl⟩,
        forms_gap.mpr ⟨hg, rfl⟩⟩, hrounds⟩⟩

-- -----------------------------------------------------------------------------------------
-- Where a match stops
-- -----------------------------------------------------------------------------------------

theorem stops_excess : excess.Stops fun c : Cursor =>
    (∀ x ∈ c.rest.head?, inGap x = false) ∧
      (c.Placed → ∀ w r gs, c.rest = w ++ r → ¬ lineBreak.Reads c.before w r gs) := by
  have hbreak : lineBreak.Stops fun c : Cursor => ∀ x ∈ c.rest.head?, inGap x = false :=
    .append (by decide) stops_many
  exact .append (by decide) (stops_atLeast (by decide) (by decide) hbreak)

/-- The search takes all the line breaks that there are. -/
theorem inert_after (hm : Regex.Leftmost t excess.compile c m) : Inert m.after := by
  obtain ⟨u, hstart⟩ := hm.start
  obtain ⟨hgap, hround⟩ := stops_excess _ m.start _ hstart.placed hm.first
  obtain ⟨w, hstop, -⟩ := (Exact.compile lexical_excess.steady _).sound hstart.placed
    (List.mem_of_head? hm.first)
  have hnone : Gap [] := by simp [Gap]
  have hno : ∀ w, lineBreak.Words w → ¬ w <+: m.after := by
    rintro w ⟨gs, hw⟩ ⟨r, hr⟩
    exact hround hstop.placed w r gs hr.symm (hw.anywhere rfl _ _)
  intro n y hy hprefix
  cases hy with
  | nil => rfl
  | @gap c _ y hc =>
    obtain ⟨r, hr⟩ := hprefix
    have hhead : m.after.head? = some c := by rw [← hr]; rfl
    rw [hgap c hhead] at hc
    cases hc
  | @feed _ y =>
    have hfirst : ['\n'] <+: '\n' :: y := ⟨y, rfl⟩
    exact absurd (hfirst.trans hprefix) (hno _ (words_lineBreak.mpr ⟨[], hnone, .inl rfl⟩))
  | @pair _ y =>
    have hfirst : ['\r', '\n'] <+: '\r' :: '\n' :: y := ⟨y, rfl⟩
    exact absurd (hfirst.trans hprefix) (hno _ (words_lineBreak.mpr ⟨[], hnone, .inr rfl⟩))

-- -----------------------------------------------------------------------------------------
-- What is left
-- -----------------------------------------------------------------------------------------

/-- Excess blank lines go on past two line feeds. -/
theorem not_excess_feeds (h : Ended r) (hn : n ≤ 2) (he : Excess e) : ¬ e <+: feeds n ++ r := by
  intro hprefix
  obtain ⟨k, hk, hbreaks⟩ := he.breaks
  have hle := hbreaks.le_of_ended h hprefix
  omega

/-- Excess blank lines that begin in front of two line feeds begin in front of what these take the
place of. -/
theorem exists_excess (he : Excess (u ++ '\n' :: x)) (hu : u ≠ []) (hw : Excess w) : Excess (u ++ w) := by
  obtain ⟨n, -, hbreaks⟩ := he.breaks
  cases u with
  | nil => exact absurd rfl hu
  | cons c u =>
    have hc : c = '\n' := by
      cases he
      rfl
    subst hc
    exact .prepend hbreaks hw

theorem Excess.ne_nil (h : Excess e) : e ≠ [] := by
  cases h
  simp

/-- Where excess blank lines begin nowhere in `u`, they do not when two line feeds take the place
of `w`. -/
theorem free_exchange (hu : ∀ a b, u = a ++ b → b ≠ [] → ∀ e, Excess e → ¬ e <+: b ++ w)
    (hw : Excess w) (hr : Ended r) (hfree : Free Excess r) : Free Excess (u ++ (feeds 2 ++ r)) := by
  rintro e he ⟨a, b, h⟩
  rw [List.append_assoc] at h
  rcases List.append_eq_append_iff.mp h with ⟨k, rfl, hk⟩ | ⟨k, rfl, hk⟩
  · rcases List.append_eq_append_iff.mp hk with ⟨x, rfl, hx⟩ | ⟨x, rfl, hx⟩
    · have hne : e ++ x ≠ [] := by simp [he.ne_nil]
      exact hu a _ rfl hne e he ((List.prefix_append e x).trans (List.prefix_append _ w))
    · by_cases hnil : k = []
      · subst hnil
        exact not_excess_feeds hr (Nat.le_refl 2) he ⟨b, by simpa using hx.symm⟩
      · cases x with
        | nil =>
          rw [List.append_nil] at he
          exact hu a k rfl hnil k he (List.prefix_append k w)
        | cons d x =>
          obtain rfl : '\n' = d := (List.cons.inj hx).1
          exact hu a k rfl hnil _ (exists_excess he hnil hw) (List.prefix_refl _)
  · rcases List.append_eq_append_iff.mp hk with ⟨x, rfl, hx⟩ | ⟨x, hx, hx'⟩
    · exact hfree e he ⟨x, b, by rw [hx, List.append_assoc]⟩
    · have hfeeds : x = feeds x.length :=
        List.eq_replicate_of_mem fun c hc => mem_feeds (hx ▸ List.mem_append_right k hc)
      have hlen := congrArg List.length hx
      simp only [feeds, List.length_replicate, List.length_append] at hlen
      refine not_excess_feeds (n := x.length) hr (by omega) he ⟨b, ?_⟩
      rw [← hfeeds]
      exact hx'

/-- Where no line break comes in front of excess blank lines, none does in front of the line feeds that
take their place. -/
theorem ended_exchange (hu : Ended (u ++ (w ++ s))) (hw : Excess w) : Ended (u ++ (feeds 2 ++ r)) := by
  rintro n y hy ⟨b, h⟩
  rcases List.append_eq_append_iff.mp h with ⟨k, rfl, -⟩ | ⟨k, rfl, hk⟩
  · exact hu n y hy ((List.prefix_append y k).trans (List.prefix_append _ _))
  · cases k with
    | nil =>
      rw [List.append_nil] at hy
      exact hu n u hy (List.prefix_append u _)
    | cons d k =>
      obtain rfl : '\n' = d := (List.cons.inj hk).1
      obtain ⟨-, ht⟩ := hw
      obtain ⟨m, hpos, hall⟩ := hy.exchange ht
      have hnone := hu m _ hall ⟨s, by rw [List.append_assoc]⟩
      omega

/-- The words of the pattern are excess blank lines, with such a word at the start of all of them, and
no line break comes behind a match. -/
structure Collects (p : Pattern) : Prop extends p.Lexical where
  sound : ∀ w, p.Words w → Excess w
  first : ∀ e, Excess e → ∃ w, p.Words w ∧ w <+: e
  ended : ∀ {t c m}, Regex.Leftmost t p.compile c m → Ended m.after

/-- By induction on the matches. -/
theorem free_found {p : Pattern} (hp : Collects p) (hc : c.In t) (h : Regex.Found t p.compile c ps) :
    let out := ps.flatMap fun
      | .kept t => t
      | .hit _ => feeds 2
    Free Excess out ∧ (Ended c.rest → Ended out) := by
  induction h with
  | @last c hq =>
    have hfree := hq.free hp.toLexical hc (u := c.rest) (r := []) (by simp) (by simp)
    simp only [List.flatMap_cons, List.flatMap_nil, List.append_nil]
    refine ⟨fun e he hin => ?_, id⟩
    obtain ⟨w, hw, hbegins⟩ := hp.first e he
    exact hfree w hw (hbegins.isInfix.trans hin)
  | @hit c m ps u hu hm h ih =>
    have hway := List.mem_of_head? hm.first
    have hstop := (Program.steady_compile hp.steady _).in_of_mem_ways hm.inText _ hway
    obtain ⟨w, hpast, hreads⟩ := (Exact.compile hp.steady _).sound hu.placed hway
    have hw : Excess w := hp.sound w ⟨_, hreads.anywhere hp.anchorless _ _⟩
    obtain ⟨hfree, hended⟩ := ih hstop
    have hr := hended (hp.ended hm)
    have hrest : c.rest = u ++ (w ++ m.stop.rest) := hu.rest.trans (congrArg (u ++ ·) hpast.rest)
    have hnone : ∀ a b, u = a ++ b → b ≠ [] → ∀ e, Excess e → ¬ e <+: b ++ w := by
      rintro a b rfl hb e he hprefix
      obtain ⟨v, hv, hfirst⟩ := hp.first e he
      obtain ⟨s, hs⟩ := hfirst.trans hprefix
      refine hm.quiet.not_words hp.toLexical hc (a := a) (r := s ++ m.stop.rest) ?_ ?_ hv
      · rw [hrest, ← List.append_assoc v, hs]
        simp
      · have hlen := congrArg List.length hs
        have hpos := List.length_pos_iff.mpr hb
        have hleft := hu.placed
        rw [Cursor.Placed, hpast.rest] at hleft
        simp only [List.length_append, Option.mem_def, Option.some.injEq, forall_eq'] at hlen hleft ⊢
        omega
    simp only [List.flatMap_cons]
    exact ⟨free_exchange hnone hw hr hfree, fun h => ended_exchange (hrest ▸ h) hw⟩

theorem free_replaced {p : Pattern} (hp : Collects p) (t : Text) :
    Free Excess (p.compile.replaceAll (fun _ => feeds 2) t) :=
  (free_found hp (.start t) (Regex.found_pieces hp.steady hp.nullable t)).1

theorem collects_excess : Collects excess where
  toLexical := lexical_excess
  sound _ := words_excess.mp
  first e he := ⟨e, words_excess.mpr he, List.prefix_refl e⟩
  ended hm := (inert_after hm).ended

/-- No excess blank lines are left. -/
theorem free_excess (t : Text) : Free Excess (excessBlankLines.apply t) := free_replaced collects_excess t

theorem apply_excess (t : Text) : ∃ parts tail, Outlined excess t parts tail ∧
    excessBlankLines.apply t = parts.flatMap (fun part => part.1 ++ feeds 2) ++ tail := by
  obtain ⟨parts, tail, hout, hpieces⟩ := exists_outline lexical_excess t
  exact ⟨parts, tail, hout, replaceAll_of_pieces hpieces _⟩

theorem visible_outlined (h : Outlined excess t parts tail) :
    Text.visible (parts.flatMap (fun part => part.1 ++ feeds 2) ++ tail) = Text.visible t := by
  induction h with
  | nil => rfl
  | @cons u m w r parts tail _ hm _ ih =>
    have hw := (words_excess.mp ⟨_, hm.reads⟩).blank
    simp only [List.flatMap_cons, Text.visible_append, Text.visible_eq_nil.mpr hw,
      Text.visible_eq_nil.mpr (blank_feeds 2), List.append_assoc, List.nil_append] at ih ⊢
    rw [ih]

theorem visible_excessBlankLines (t : Text) :
    Text.visible (excessBlankLines.apply t) = Text.visible t := by
  obtain ⟨parts, tail, hout, happly⟩ := apply_excess t
  rw [happly, visible_outlined hout]

/-- Excess blank lines are no part of a text that has none and no white space at its end. -/
theorem exists_append_excess (hfree : Free Excess body) (htrim : Text.trimEnd body = body)
    (hw : Excess w) (h : body ++ b = u ++ (w ++ r)) : ∃ k, u = body ++ k ∧ b = k ++ (w ++ r) := by
  rcases List.append_eq_append_iff.mp h with ⟨k, hk, hk'⟩ | ⟨k, rfl, hk⟩
  · exact ⟨k, hk, hk'⟩
  · rcases List.append_eq_append_iff.mp hk with ⟨x, rfl, -⟩ | ⟨x, rfl, -⟩
    · exact absurd ⟨u, x, by simp⟩ (hfree w hw)
    · have hblank : Blank k := hw.blank.subset (List.subset_append_left k x)
      rw [Text.trimEnd_append_blank hblank] at htrim
      have hle := (Text.trimEnd_isPrefix u).length_le
      rw [htrim, List.length_append] at hle
      obtain rfl : k = [] := List.eq_nil_of_length_eq_zero (by omega)
      exact ⟨[], by simp, by simpa using hk.symm⟩

/-- Where there are no excess blank lines but at the end, nothing else is changed. -/
theorem trimEnd_excessBlankLines (hfree : Free Excess body) (htrim : Text.trimEnd body = body)
    (hb : Blank b) : Text.trimEnd (excessBlankLines.apply (body ++ b)) = body := by
  obtain ⟨parts, tail, hout, happly⟩ := apply_excess (body ++ b)
  rw [happly]
  clear happly
  generalize ht : body ++ b = t at hout
  cases hout with
  | nil =>
    subst ht
    rw [List.flatMap_nil, List.nil_append, Text.trimEnd_append_blank hb, htrim]
  | @cons u m w r parts tail _ hm h =>
    have hw := words_excess.mp ⟨_, hm.reads⟩
    obtain ⟨k, rfl, rfl⟩ := exists_append_excess hfree htrim hw ht
    have hk : Blank k := hb.subset (List.subset_append_left _ _)
    have hr : Blank r := hb.subset fun c hc => by simp [hc]
    have hrest := visible_outlined h
    rw [Text.visible_eq_nil.mpr hr, Text.visible_eq_nil] at hrest
    have hall : Blank (k ++ (feeds 2 ++ (parts.flatMap (fun part => part.1 ++ feeds 2) ++ tail))) :=
      hk.append ((blank_feeds 2).append hrest)
    simp only [List.flatMap_cons, List.append_assoc]
    rw [Text.trimEnd_append_blank hall, htrim]

end Wikitext.Metadata
