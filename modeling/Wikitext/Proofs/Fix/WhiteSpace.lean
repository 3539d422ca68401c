import Wikitext.Fix.Typography
import Wikitext.Proofs.Fix.HeadingForm
import Wikitext.Proofs.Metadata.BlankLines
import Wikitext.Proofs.Pattern.Phrase

/-!
# White space at the ends of lines

Spaces and tabs in front of a line end go, runs of blank lines become single ones, and the text is
trimmed. A carriage return between spaces is in the way: what stands in front of it is at the end of a
line only when what stands behind it is gone (`Stray`). Where there is none, nothing is left to do, and
in any text nothing is left to do the second time.
-/

namespace Wikitext.Fix

open Pattern Category Metadata

-- -----------------------------------------------------------------------------------------
-- The ends of lines
-- -----------------------------------------------------------------------------------------

def trailingRun : Pattern := someGap ++ group 1 (opt (lit "\r")) ++ lineEnd

theorem trailingGap_eq : trailingGap = .of trailingRun fun m => m.group 1 := rfl

/-- What may stand in front of a line feed as part of the line end. -/
def Return (c : Text) : Prop := c = [] ∨ c = ['\r']

/-- A space or a tab, and the line end behind it. -/
inductive Trailing : Text → Prop
  | intro : inGap x = true → Return c → Trailing (x :: c ++ ['\n'])

/-- A carriage return with spaces or tabs on both sides, those behind it at the end of a line. -/
inductive Stray : Text → Prop
  | intro : inGap x = true → Gap g → g ≠ [] → Stray (x :: '\r' :: g ++ ['\n'])

theorem reads_lineEnd_iff : lineEnd.Reads b w r gs ↔ w = [] ∧ gs = [] ∧ LineEnds r := by
  constructor
  · intro h
    obtain ⟨rfl, hends⟩ := reads_lineEnd h
    exact ⟨rfl, h.groups_eq_nil rfl, hends⟩
  · rintro ⟨rfl, rfl, hends⟩
    refine .anchor (c := ⟨b, r, r.length, 0⟩) ?_ rfl rfl
    cases r with
    | nil => rfl
    | cons c r => simpa [Anchor.holds] using hends c rfl

theorem reads_trailingRun : trailingRun.Reads b w r gs ↔ ∃ g c, w = g ++ c ∧ Gap g ∧ g ≠ [] ∧
    Return c ∧ LineEnds r ∧ gs = [(1, c)] := by
  constructor
  · rintro ⟨⟩
    rename_i u v gs₁ gs₂ hfront hend
    obtain ⟨rfl, rfl, hr⟩ := reads_lineEnd_iff.mp hend
    obtain ⟨g, c, _, _, rfl, rfl, hg, hc⟩ := (forms_append rfl rfl).mp (hfront.anywhere rfl none [])
    obtain ⟨hne, hgap, rfl⟩ := forms_run1.mp hg
    obtain ⟨_, rfl, hopt⟩ := forms_group.mp hc
    rw [List.append_nil]
    rcases forms_opt.mp hopt with ⟨rfl, rfl⟩ | hreturn
    · exact ⟨g, [], rfl, hgap, hne, .inl rfl, hr, rfl⟩
    · obtain ⟨rfl, rfl⟩ := forms_ofText.mp hreturn
      exact ⟨g, _, rfl, hgap, hne, .inr rfl, hr, rfl⟩
  · rintro ⟨g, c, rfl, hg, hne, hc, hr, rfl⟩
    have hopt : (opt (lit "\r")).Forms c [] :=
      forms_opt.mpr (hc.imp (⟨·, rfl⟩) fun h => forms_ofText.mpr ⟨h, rfl⟩)
    have hfront : (someGap ++ group 1 (opt (lit "\r"))).Forms (g ++ c) [(1, c)] :=
      (forms_append rfl rfl).mpr ⟨g, c, [], _, rfl, rfl, forms_run1.mpr ⟨hne, hg, rfl⟩,
        forms_group.mpr ⟨[], rfl, hopt⟩⟩
    exact (hfront.anywhere rfl b r).append_nothing (reads_lineEnd_iff.mpr ⟨rfl, rfl, hr⟩)

theorem Return.not_mem (hc : Return c) : '\n' ∉ c := by
  rcases hc with rfl | rfl <;> simp

theorem takes_trailingRun (hm : Takes trailingRun m b w r) :
    ∃ g, w = g ++ m.group 1 ∧ Gap g ∧ g ≠ [] ∧ Return (m.group 1) ∧ LineEnds r := by
  obtain ⟨g, c, hw, hg, hne, hc, hr, hgs⟩ := reads_trailingRun.mp hm.reads
  have hgroup : m.group 1 = c := Match.group_eq_of_texts hgs (by decide) rfl
  exact ⟨g, by rwa [hgroup], hg, hne, by rwa [hgroup], hr⟩

/-- A line end stays where it is. -/
theorem lineEnds_of_replaces (h : Replaces trailingRun f b t t') (ht : LineEnds t) :
    LineEnds t' ∧ (t = [] → t' = []) := by
  cases h with
  | rest => exact ⟨ht, id⟩
  | @hit _ u w r m r' _ hm _ =>
    obtain ⟨g, rfl, hg, hne, -⟩ := takes_trailingRun hm
    obtain ⟨x, g, rfl⟩ := List.exists_cons_of_ne_nil hne
    cases u with
    | nil =>
      obtain rfl : x = '\n' := ht x rfl
      exact absurd (hg _ List.mem_cons_self) (by decide)
    | cons y u =>
      refine ⟨fun z hz => ?_, by simp⟩
      obtain rfl : y = z := by simpa using hz
      exact ht y rfl

/-- A space in front of a line end, where the text up to a match did not end with it, stands in front
of a carriage return that stood in front of the match. -/
theorem eq_return_of_append (hx : inGap x = true) (hc : Return c) (hc' : Return c')
    (hne : u ≠ a ++ [x]) (hu : u ++ c' = a ++ x :: c) :
    c = ['\r'] ∧ c' = [] ∧ u = a ++ [x, '\r'] := by
  rcases hc' with rfl | rfl <;> rcases hc with rfl | rfl
  · exact absurd ((List.append_nil u).symm.trans hu) hne
  · rw [List.append_nil] at hu
    exact ⟨rfl, rfl, hu⟩
  · obtain ⟨-, hend⟩ := List.append_inj' hu rfl
    obtain rfl : '\r' = x := by simpa using hend
    exact absurd hx (by decide)
  · have hsame : u ++ ['\r'] = (a ++ [x]) ++ ['\r'] := by simpa using hu
    exact absurd (List.append_cancel_right hsame) hne

/-- By induction on the matches: what is left in front of a line end was in front of a carriage return
behind which the spaces have gone. -/
theorem stray_of_trailing (h : Replaces trailingRun (fun m => m.group 1) b t t') (hx : inGap x = true)
    (hc : Return c) (ht : t' = a ++ (x :: c ++ '\n' :: s)) : c = ['\r'] ∧ ¬ Free Stray t := by
  have hline : '\n' ∉ x :: c := by
    rintro (_ | ⟨_, hm⟩)
    · exact absurd hx (by decide)
    · exact hc.not_mem hm
  have hnext : ∀ {r : Text}, LineEnds ('\n' :: r) := fun {r} d hd => by simpa using hd.symm
  induction h generalizing a s with
  | rest hvacant =>
    subst ht
    refine absurd (reads_trailingRun.mpr ⟨[x], c, rfl, by simpa [Gap] using hx, by simp, hc, hnext, rfl⟩)
      ((vacant_iff rfl).mp hvacant a _ _ _ rfl)
  | @hit b u w r m r' hvacant hm hrest ih =>
    obtain ⟨g, rfl, hg, hne, hreturn, hr⟩ := takes_trailingRun hm
    generalize m.group 1 = c' at *
    obtain ⟨hr', hnil⟩ := lineEnds_of_replaces hrest hr
    -- The match takes in all the spaces that there are.
    have hall : ∀ a', u ≠ a' ++ [x] := fun a' hu => by
      refine hvacant a' [x] (x :: g ++ c') r [(1, c')] hu (by simp) (by simp) ?_
      refine reads_trailingRun.mpr ⟨x :: g, c', rfl, ?_, by simp, hreturn, hr, rfl⟩
      exact List.forall_mem_cons.mpr ⟨hx, hg⟩
    have hmeet : u ++ c' = a ++ x :: c → r' = '\n' :: s →
        c = ['\r'] ∧ ¬ Free Stray (u ++ (g ++ c' ++ r)) := by
      intro hu hs
      obtain ⟨d, s', rfl⟩ := List.exists_cons_of_ne_nil (l := r) fun hr => by simp [hnil hr] at hs
      obtain rfl : d = '\n' := hr d rfl
      obtain ⟨rfl, rfl, rfl⟩ := eq_return_of_append hx hc hreturn (hall a) hu
      exact ⟨rfl, fun hfree => hfree _ (.intro hx hg hne) ⟨a, s', by simp⟩⟩
    have htexts : a ++ x :: c ++ '\n' :: s = u ++ c' ++ r' := by
      rw [List.append_assoc, List.append_assoc, ht, List.cons_append]
    rcases List.append_eq_append_iff.mp htexts with ⟨k, hk, hs⟩ | ⟨k, hk, hs⟩
    · cases k with
      | nil => exact hmeet (by simpa using hk) hs.symm
      | cons d k =>
        -- The line end is in front of the match.
        obtain rfl : '\n' = d := (List.cons.inj hs).1
        have hfront : u ++ (c' ++ []) = (a ++ x :: c) ++ '\n' :: k := by simpa using hk
        rcases append_cases_of_not_mem hreturn.not_mem hfront with ⟨l, -, hl⟩ | ⟨l, rfl, -⟩
        · simp at hl
        · refine absurd (reads_trailingRun.mpr
            ⟨[x], c, rfl, by simpa [Gap] using hx, by simp, hc, hnext, rfl⟩)
            (hvacant a (x :: c ++ '\n' :: l) _ ('\n' :: l ++ (g ++ c' ++ r)) _ (by simp) (by simp)
              (by simp))
    · cases k with
      | nil => exact hmeet (by simpa using hk.symm) hs
      | cons d k =>
        -- The line end is behind the first one that stands behind the match.
        obtain rfl : d = '\n' := hr' d (by rw [hs]; rfl)
        have hback : a ++ ((x :: c) ++ []) = (u ++ c') ++ '\n' :: k := by simpa using hk
        rcases append_cases_of_not_mem hline hback with ⟨l, -, hl⟩ | ⟨l, -, rfl⟩
        · simp at hl
        · obtain ⟨hreturn', hstray⟩ := ih (a := '\n' :: l) (s := s) (by simp [hs])
          exact ⟨hreturn', fun hfree => hstray (hfree.within ⟨u ++ (g ++ c'), [], by simp⟩)⟩

-- -----------------------------------------------------------------------------------------
-- Runs of blank lines
-- -----------------------------------------------------------------------------------------

def blankLine : Pattern := gap ++ opt (lit "\r") ++ lit "\n"

def blankRun : Pattern := lit "\n" ++ atLeast 2 blankLine

theorem blankLines_eq : blankLines = .of blankRun fun _ => feeds 2 := rfl

theorem words_blankLine : blankLine.Words w ↔ ∃ g c, w = g ++ c ++ ['\n'] ∧ Gap g ∧ Return c := by
  constructor
  · intro h
    obtain ⟨_, _, rfl, hfront, hfeed⟩ := (words_append rfl rfl).mp h
    obtain ⟨g, c, rfl, hg, ⟨_, hc⟩⟩ := (words_append rfl rfl).mp hfront
    obtain rfl := words_ofText.mp hfeed
    refine ⟨g, c, rfl, words_gap.mp hg, ?_⟩
    rcases forms_opt.mp hc with ⟨rfl, -⟩ | hreturn
    · exact .inl rfl
    · exact .inr (forms_ofText.mp hreturn).1
  · rintro ⟨g, c, rfl, hg, hc⟩
    have hopt : (opt (lit "\r")).Forms c [] :=
      forms_opt.mpr (hc.imp (⟨·, rfl⟩) fun h => forms_ofText.mpr ⟨h, rfl⟩)
    exact (words_append rfl rfl).mpr ⟨g ++ c, _, rfl, (words_append rfl rfl).mpr
      ⟨g, c, rfl, words_gap.mpr hg, ⟨_, hopt⟩⟩, words_ofText.mpr rfl⟩

theorem breaks_of_blankLine (h : blankLine.Words w) : Breaks 1 w := by
  obtain ⟨g, c, rfl, hg, rfl | rfl⟩ := words_blankLine.mp h
  · simpa using (Breaks.of_gap hg).append Breaks.nil.feed
  · simpa using (Breaks.of_gap hg).append Breaks.nil.pair

theorem exists_blankLine (h : Breaks n t) (hn : 0 < n) :
    ∃ w r, blankLine.Words w ∧ Breaks (n - 1) r ∧ t = w ++ r := by
  induction h with
  | nil => exact absurd hn (Nat.lt_irrefl 0)
  | @gap x n t hx _ ih =>
    obtain ⟨w, r, hw, hr, rfl⟩ := ih hn
    obtain ⟨g, c, rfl, hg, hc⟩ := words_blankLine.mp hw
    exact ⟨_, r, words_blankLine.mpr ⟨x :: g, c, rfl, List.forall_mem_cons.mpr ⟨hx, hg⟩, hc⟩, hr, rfl⟩
  | @feed n t h =>
    exact ⟨['\n'], t, words_blankLine.mpr ⟨[], [], rfl, by simp [Gap], .inl rfl⟩, h, rfl⟩
  | @pair n t h =>
    exact ⟨['\r', '\n'], t, words_blankLine.mpr ⟨[], ['\r'], rfl, by simp [Gap], .inr rfl⟩, h, rfl⟩

theorem collects_blankRun : Collects blankRun where
  steady := rfl
  nullable := rfl
  anchorless := rfl
  sound w hw := by
    obtain ⟨_, _, rfl, hfeed, ⟨_, hlines⟩⟩ := (words_append rfl rfl).mp hw
    obtain rfl := words_ofText.mp hfeed
    obtain ⟨rs, hrs, hn, rfl⟩ := hlines.rounds rfl
    exact .intro hn (breaks_flatten fun r hr => breaks_of_blankLine (hrs r hr))
  first e he := by
    obtain ⟨hn, ht⟩ := he
    obtain ⟨w, _, hw, h₁, rfl⟩ := exists_blankLine ht (by omega)
    obtain ⟨w', r, hw', -, rfl⟩ := exists_blankLine h₁ (by omega)
    have hlines : (atLeast 2 blankLine).Words [w, w'].flatten :=
      words_rounds rfl (by simp [hw, hw']) (Nat.le_refl 2)
    exact ⟨_, (words_append rfl rfl).mpr ⟨_, _, rfl, words_ofText.mpr rfl, hlines⟩, r, by simp⟩
  ended {t c m} hm := by
    have hstops : blankRun.Stops fun c : Cursor => True ∧
        (c.Placed → ∀ w r gs, c.rest = w ++ r → ¬ blankLine.Reads c.before w r gs) :=
      .append rfl (stops_atLeast rfl rfl fun _ _ _ _ _ => trivial)
    obtain ⟨u, hstart⟩ := hm.start
    obtain ⟨-, hround⟩ := hstops _ m.start _ hstart.placed hm.first
    have hsteady : blankRun.steady = true := rfl
    obtain ⟨w, hstop, -⟩ := (Exact.compile hsteady _).sound hstart.placed (List.mem_of_head? hm.first)
    rintro n y hy ⟨r, hr⟩
    by_contra hn
    obtain ⟨v, s, ⟨gs, hv⟩, -, rfl⟩ := exists_blankLine hy (Nat.pos_of_ne_zero hn)
    exact hround hstop.placed v (s ++ r) gs (by rw [← List.append_assoc]; exact hr.symm)
      (hv.anywhere rfl _ _)

/-- What ends at a line feed stood there before. By induction on the runs: each of them begins with a
line feed, and what takes its place does too. -/
theorem infix_of_outlined (hv : '\n' ∉ v) (hne : v ≠ []) (h : Outlined blankRun t parts tail)
    (hin : v ++ ['\n'] <:+: parts.flatMap (fun part => part.1 ++ feeds 2) ++ tail) :
    v ++ ['\n'] <:+: t := by
  induction h with
  | nil => simpa using hin
  | @cons u m w r parts tail _ hm _ ih =>
    obtain ⟨y, rfl⟩ : ∃ y, w = '\n' :: y := by
      obtain ⟨_, _⟩ := collects_blankRun.sound w ⟨_, hm.reads⟩
      exact ⟨_, rfl⟩
    obtain ⟨a, s, heq⟩ := hin
    have hfirst : a ++ (v ++ '\n' :: s) = u ++ '\n' :: ('\n' :: (parts.flatMap
        (fun part => part.1 ++ feeds 2) ++ tail)) := by simpa [feeds] using heq
    rcases append_cases_of_not_mem hv hfirst with ⟨k, rfl, hk⟩ | ⟨k, -, hk⟩
    · cases k with
      | nil => exact ⟨a, y ++ r, by simp⟩
      | cons d k =>
        obtain ⟨rfl, -⟩ := List.cons.inj hk
        exact ⟨a, k ++ ('\n' :: y ++ r), by simp⟩
    · have hrest : v ++ ['\n'] <:+: parts.flatMap (fun part => part.1 ++ feeds 2) ++ tail := by
        cases k with
        | nil =>
          obtain ⟨d, v, rfl⟩ := List.exists_cons_of_ne_nil hne
          obtain ⟨rfl, -⟩ := List.cons.inj hk
          exact absurd List.mem_cons_self hv
        | cons d k =>
          obtain ⟨-, hk⟩ := List.cons.inj hk
          exact ⟨k, s, by rw [hk]; simp⟩
      exact (ih hrest).trans ⟨u ++ '\n' :: y, [], by simp⟩

/-- The words of the language end at their only line feed. -/
def EndsLine (L : Text → Prop) : Prop := ∀ w, L w → ∃ v, w = v ++ ['\n'] ∧ '\n' ∉ v ∧ v ≠ []

theorem free_blankLines (hL : EndsLine L) (h : Free L t) : Free L (blankLines.apply t) := by
  intro w hw hin
  obtain ⟨v, rfl, hv, hne⟩ := hL w hw
  obtain ⟨parts, tail, hout, hpieces⟩ := exists_outline collects_blankRun.toLexical t
  rw [blankLines_eq, Replacement.apply, Replacement.of, replaceAll_of_pieces hpieces] at hin
  exact h _ hw (infix_of_outlined hv hne hout hin)

theorem free_whiteSpace (hL : EndsLine L) (h : Free L (trailingGap.apply t)) : Free L (whiteSpace t) :=
  (free_blankLines hL h).within (Text.trim_isInfix _)

-- -----------------------------------------------------------------------------------------
-- All three steps
-- -----------------------------------------------------------------------------------------

theorem Gap.no_feed (hg : Gap g) : '\n' ∉ g := fun hm => absurd (hg _ hm) (by decide)

theorem endsLine_trailing : EndsLine Trailing := by
  rintro _ ⟨hx, hc⟩
  rename_i x c
  have hgap : Gap [x] := by simpa [Gap] using hx
  refine ⟨x :: c, rfl, fun hm => ?_, by simp⟩
  rcases List.mem_append.mp (List.singleton_append ▸ hm) with hm | hm
  · exact Gap.no_feed hgap hm
  · exact hc.not_mem hm

theorem endsLine_stray : EndsLine Stray := by
  rintro _ ⟨hx, hg, -⟩
  rename_i x g
  have hgap : Gap [x] := by simpa [Gap] using hx
  have hx' := Gap.no_feed hgap
  have hg' := Gap.no_feed hg
  exact ⟨x :: '\r' :: g, rfl, by simp_all, by simp⟩

/-- There is nothing to do. -/
structure Stripped (t : Text) : Prop where
  ends : Free Trailing t
  lines : Free Excess t
  trimmed : Text.trim t = t

theorem Return.blank (hc : Return c) : Blank c := by
  rcases hc with rfl | rfl
  · exact blank_nil
  · exact List.forall_mem_singleton.mpr (by decide)

theorem trailingGap_of_stripped (h : Stripped t) : trailingGap.apply t = t := by
  rw [trailingGap_eq]
  refine apply_of_vacant rfl rfl ((vacant_iff rfl).mpr fun a w r gs ht hreads => ?_)
  obtain ⟨g, c, rfl, hg, hne, hc, hr, -⟩ := reads_trailingRun.mp hreads
  cases r with
  | nil =>
    -- At the end of the text there would be white space.
    obtain ⟨y, x, heq⟩ := (List.eq_nil_or_concat' (g ++ c)).resolve_left (by simp [hne])
    have hblank : Chars.isBlank x = true := hg.blank.append hc.blank x (by simp [heq])
    have hsolid := (Text.solid_of_trim h.trimmed).2 x (by simp [ht, heq])
    exact Bool.noConfusion (hblank.symm.trans hsolid)
  | cons d r =>
    obtain rfl : d = '\n' := hr d rfl
    obtain ⟨g, x, rfl⟩ := (List.eq_nil_or_concat' _).resolve_left hne
    exact h.ends _ (.intro (hg x (by simp)) hc) ⟨a ++ g, r, by simp [ht]⟩

theorem whiteSpace_of_stripped (h : Stripped t) : whiteSpace t = t := by
  have hlines : blankLines.apply t = t := replaceAll_of_free collects_blankRun.toLexical
    (fun w hw hin => h.lines w (collects_blankRun.sound w hw) hin) _
  rw [whiteSpace, trailingGap_of_stripped h, hlines, h.trimmed]

theorem visible_trim (t : Text) : Text.visible (Text.trim t) = Text.visible t := by
  obtain ⟨b, b', hb, hb', ht, -⟩ := Text.exists_trim_between t
  conv_rhs => rw [ht]
  rw [Text.visible_append, Text.visible_append, Text.visible_eq_nil.mpr hb,
    Text.visible_eq_nil.mpr hb', List.append_nil, List.nil_append]

theorem visible_apply {p : Pattern} {f : Match → Text}
    (h : ∀ {m b w r}, Takes p m b w r → Text.visible (f m) = Text.visible w) (t : Text) :
    Text.visible ((Replacement.of p f).apply t) = Text.visible t := by
  refine replaceAll_related (R := fun t u => Text.visible u = Text.visible t) (f := f) (fun _ => rfl)
    (fun h h' => h'.trans h) fun _ hm x => ?_
  simp only [Text.visible_append, h hm]

theorem visible_trailingGap (t : Text) : Text.visible (trailingGap.apply t) = Text.visible t := by
  rw [trailingGap_eq]
  refine visible_apply (fun {m b w r} hm => ?_) t
  obtain ⟨g, rfl, hg, -, hc, -⟩ := takes_trailingRun hm
  rw [Text.visible_append, Text.visible_eq_nil.mpr hg.blank, List.nil_append]

theorem visible_blankLines (t : Text) : Text.visible (blankLines.apply t) = Text.visible t := by
  rw [blankLines_eq]
  refine visible_apply (fun {m b w r} hm => ?_) t
  have hw := (collects_blankRun.sound w ⟨_, hm.reads.anywhere rfl _ _⟩).blank
  rw [Text.visible_eq_nil.mpr hw]
  exact Text.visible_eq_nil.mpr (blank_feeds 2)

/-- Only white space is left out. -/
theorem visible_whiteSpace (t : Text) : Text.visible (whiteSpace t) = Text.visible t := by
  rw [whiteSpace, visible_trim, visible_blankLines, visible_trailingGap]

theorem replaces_trailingGap (t : Text) :
    Replaces trailingRun (fun m => m.group 1) none t (trailingGap.apply t) := by
  rw [trailingGap_eq]
  exact replaces_apply rfl rfl _ t

/-- There are no spaces in front of a line feed, if there is no carriage return between. -/
theorem free_stray_whiteSpace (t : Text) : Free Stray (whiteSpace t) := by
  refine free_whiteSpace endsLine_stray ?_
  rintro _ ⟨hx, hg, hne⟩ ⟨a, s, heq⟩
  rename_i x g
  obtain ⟨g, y, rfl⟩ := (List.eq_nil_or_concat' _).resolve_left hne
  have hy : inGap y = true := hg y (by simp)
  obtain ⟨hreturn, -⟩ := stray_of_trailing (a := a ++ x :: '\r' :: g) (s := s) (c := [])
    (replaces_trailingGap t) hy (.inl rfl) (by simp [← heq])
  cases hreturn

theorem stripped_whiteSpace (h : Free Stray t) : Stripped (whiteSpace t) where
  ends := free_whiteSpace endsLine_trailing <| by
    rintro _ ⟨hx, hc⟩ ⟨a, s, heq⟩
    exact (stray_of_trailing (replaces_trailingGap t) hx hc (a := a) (s := s) (by simp [← heq])).2 h
  lines := Free.within (free_replaced collects_blankRun _) (Text.trim_isInfix _)
  trimmed := Text.trim_trim _

/-- Where no carriage return is in the way, a second time nothing changes. -/
theorem whiteSpace_whiteSpace (h : Free Stray t) : whiteSpace (whiteSpace t) = whiteSpace t :=
  whiteSpace_of_stripped (stripped_whiteSpace h)

/-- Only white space is left out, no run of blank lines and no white space at an end is left, and after
the second time there is nothing more to do. -/
theorem whiteSpace_settles (t : Text) : Text.visible (whiteSpace t) = Text.visible t ∧
    Free Excess (whiteSpace t) ∧ Text.trim (whiteSpace t) = whiteSpace t ∧
      Stripped (whiteSpace (whiteSpace t)) ∧
        whiteSpace (whiteSpace (whiteSpace t)) = whiteSpace (whiteSpace t) :=
  have hfree := free_stray_whiteSpace t
  ⟨visible_whiteSpace t, Free.within (free_replaced collects_blankRun _) (Text.trim_isInfix _),
    Text.trim_trim _, stripped_whiteSpace hfree, whiteSpace_whiteSpace hfree⟩

/-- The space in front of the first carriage return is only found the second time. -/
example : whiteSpace "a \r \nb".toList = "a \r\nb".toList ∧
    whiteSpace "a \r\nb".toList = "a\r\nb".toList := by decide +kernel

end Wikitext.Fix
