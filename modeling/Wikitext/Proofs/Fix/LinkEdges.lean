import Wikitext.Fix.Links
import Wikitext.Proofs.Fix.Harmless
import Wikitext.Proofs.Fix.Passes
import Wikitext.Proofs.Pattern.Phrase
import Wikitext.Proofs.Pattern.Preference
import Wikitext.Proofs.Text.Blank

/-!
# Spaces at the edges of links

Spaces in front of the end of a link go behind it, spaces behind its start go in front of it, and runs
of them in a target become single ones. Nothing but spaces changes, and they divide the same words
(`Kept`): a link at the start of a line has the line end in front of it. After the first step no link
has a space in front of its end; the second one leaves none behind a start and brings none to an end;
and what the third one does to runs of spaces is no matter for either (`free_of_squeeze`). So one pass
is enough.
-/

namespace Wikitext.Fix.LinkEdges

open Pattern Text

-- -----------------------------------------------------------------------------------------
-- Texts with other spaces
-- -----------------------------------------------------------------------------------------

def withoutSpaces (t : Text) : Text := t.filter (· != ' ')

def withoutBrackets (t : Text) : Text := t.filter (!"[]".toList.contains ·)

theorem withoutSpaces_append (s t : Text) :
    withoutSpaces (s ++ t) = withoutSpaces s ++ withoutSpaces t := List.filter_append s t

theorem withoutBrackets_append (s t : Text) :
    withoutBrackets (s ++ t) = withoutBrackets s ++ withoutBrackets t := List.filter_append s t

/-- The second text differs from the first one in spaces only, which divide the same words. -/
def Kept (t t' : Text) : Prop :=
  withoutSpaces t' = withoutSpaces t ∧ words (withoutBrackets t') = words (withoutBrackets t)

/-- So it is in any surroundings. -/
structure Respaced (w w' : Text) : Prop where
  signs : withoutSpaces w' = withoutSpaces w
  within : ∀ x y, words (x ++ (withoutBrackets w' ++ y)) = words (x ++ (withoutBrackets w ++ y))

namespace Respaced

theorem refl (t : Text) : Respaced t t := ⟨rfl, fun _ _ => rfl⟩

theorem trans (h : Respaced t u) (h' : Respaced u v) : Respaced t v :=
  ⟨h'.signs.trans h.signs, fun x y => (h'.within x y).trans (h.within x y)⟩

theorem append_left (u : Text) (h : Respaced t t') : Respaced (u ++ t) (u ++ t') where
  signs := by rw [withoutSpaces_append, withoutSpaces_append, h.signs]
  within x y := by
    have hwords := h.within (x ++ withoutBrackets u) y
    simpa only [withoutBrackets_append, List.append_assoc] using hwords

/-- Without the brackets, there is white space at one place in both. -/
theorem of_run (hsigns : withoutSpaces w' = withoutSpaces w)
    (hw : withoutBrackets w = a ++ (s ++ b)) (hw' : withoutBrackets w' = a ++ (k ++ b))
    (hs : Blank s) (hne : s ≠ []) (hk : Blank k) (hne' : k ≠ []) : Respaced w w' where
  signs := hsigns
  within x y := by
    have hrun : ∀ {s}, Blank s → s ≠ [] →
        words (x ++ (a ++ (s ++ b) ++ y)) = words (x ++ a) ++ words (b ++ y) := fun hs hne => by
      rw [← words_append_run hs hne]
      simp only [List.append_assoc]
    rw [hw, hw', hrun hs hne, hrun hk hne']

theorem squeezed (t : Text) : Respaced t (squeeze t) := by
  fun_induction squeeze t with
  | case1 => exact .refl _
  | case2 c t h ih =>
    obtain ⟨rfl, hhead⟩ := h
    obtain ⟨d, t, rfl⟩ := List.exists_cons_of_ne_nil (l := t) (by rintro rfl; cases hhead)
    obtain rfl : d = ' ' := by simpa using hhead
    have hone : Respaced (' ' :: ' ' :: t) (' ' :: t) :=
      of_run (a := []) (s := [' ', ' ']) (k := [' ']) (b := withoutBrackets t) rfl rfl rfl
        (Spaces.blank (by simp [Spaces])) (by simp) (Spaces.blank (by simp [Spaces])) (by simp)
    exact hone.trans ih
  | case3 c t _ ih => exact ih.append_left [c]

theorem kept (h : Respaced w w') (x r : Text) : Kept (x ++ (w ++ r)) (x ++ (w' ++ r)) := by
  simp only [Kept, withoutSpaces_append, withoutBrackets_append, h.signs, true_and]
  exact h.within _ _

end Respaced

-- -----------------------------------------------------------------------------------------
-- Links with spaces at their edges
-- -----------------------------------------------------------------------------------------

/-- No brackets. -/
def Plain (x : Text) : Prop := '[' ∉ x ∧ ']' ∉ x

/-- What stands at the end is no white space. -/
def Solid (g : Text) : Prop := ∃ x z, g = x ++ [z] ∧ Chars.isBlank z = false

def SpaceAtStart (x : Text) : Prop := x.head? = some ' '

/-- There are spaces behind the last sign. -/
def SpaceAtEnd (x : Text) : Prop := ∃ g s, x = g ++ s ∧ Solid g ∧ Spaces s ∧ s ≠ []

/-- The text is a link for whose inside `P` holds. -/
def Link (P : Text → Prop) (w : Text) : Prop :=
  ∃ x, Plain x ∧ P x ∧ w = "[[".toList ++ (x ++ "]]".toList)

theorem Link.enclosed (h : Link P w) : Enclosed '[' ']' w := by
  obtain ⟨x, ⟨ho, hc⟩, -, rfl⟩ := h
  exact .intro ho hc

theorem plain_append : Plain (x ++ y) ↔ Plain x ∧ Plain y := by
  simp only [Plain, List.mem_append, not_or]
  tauto

theorem plain_of_spaces (hs : Spaces s) : Plain s :=
  ⟨fun hm => absurd (hs _ hm) (by decide), fun hm => absurd (hs _ hm) (by decide)⟩

theorem plain_of_reads {p : Pattern} (h : p.Reads b x r gs) (hp : p.avoids "[]".toList = true) : Plain x :=
  ⟨fun hm => h.avoids hp _ hm (by decide), fun hm => h.avoids hp _ hm (by decide)⟩

theorem Plain.signs (h : Plain x) : ∀ c ∈ x, (!"[]".toList.contains c) = true := fun c hc => by
  have ho : c ≠ '[' := fun heq => h.1 (heq ▸ hc)
  have hc : c ≠ ']' := fun heq => h.2 (heq ▸ hc)
  simp [ho, hc]

theorem forms_spaces : (many1 (lit " ")).Forms s gs ↔ s ≠ [] ∧ Spaces s ∧ gs = [] := by
  have hforms : (many1 (char (· == ' '))).Forms s gs ↔ s ≠ [] ∧ (∀ c ∈ s, (c == ' ') = true) ∧ gs = [] :=
    forms_run1
  simp only [beq_iff_eq] at hforms
  exact hforms

theorem forms_optSpace : (opt (lit " ")).Forms e gs ↔ (e = [] ∨ e = [' ']) ∧ gs = [] := by
  rw [forms_opt, lit, forms_ofText]
  exact or_and_right.symm

theorem Link.inside (h : Link P ("[[".toList ++ (x ++ "]]".toList))) : P x := by
  obtain ⟨y, -, hy, heq⟩ := h
  rwa [List.append_cancel_right (List.append_cancel_left heq)]

theorem Solid.not_spaceAtEnd (h : Solid x) : ¬ SpaceAtEnd x := by
  rintro ⟨g, s, rfl, -, hs, hne⟩
  obtain ⟨y, z, heq, hz⟩ := h
  have hlast : s.getLast? = some z := by
    have hall := congrArg List.getLast? heq
    rwa [List.getLast?_append_of_ne_nil _ hne, List.getLast?_concat] at hall
  rw [hs z (List.mem_of_getLast? hlast)] at hz
  exact absurd hz (by decide)

theorem SpaceAtEnd.append_left (h : SpaceAtEnd x) (u : Text) : SpaceAtEnd (u ++ x) := by
  obtain ⟨_, s, rfl, ⟨y, z, rfl, hz⟩, hs, hne⟩ := h
  exact ⟨u ++ (y ++ [z]), s, by simp, ⟨u ++ y, z, by simp, hz⟩, hs, hne⟩

theorem head_of_link (w : Text) (h : Link P w) : w.head? = some '[' := h.enclosed.head

theorem withoutBrackets_of_plain (h : Plain x) : withoutBrackets x = x :=
  List.filter_eq_self.mpr h.signs

theorem withoutSpaces_of_spaces (h : Spaces s) : withoutSpaces s = [] :=
  List.filter_eq_nil_iff.mpr fun c hc => by simp [h c hc]

theorem withoutBrackets_open : withoutBrackets "[[".toList = [] := rfl

theorem withoutBrackets_close : withoutBrackets "]]".toList = [] := rfl

/-- A link, with a space in front of it or without one, between texts without such links. -/
theorem free_around (hu : Free (Link P) u) (hr : Free (Link P) r) (he : Spaces e) (hx : Plain x)
    (hno : ¬ P x) : Free (Link P) (u ++ (e ++ ("[[".toList ++ (x ++ "]]".toList) ++ r))) := by
  have hfront : Free (Link P) (u ++ e) := by
    refine hu.append (o := '[') (c := ']') (by decide) (fun w hw => hw.enclosed) (.inr ⟨?_, ?_⟩) ?_
    · exact fun hin => (plain_of_spaces he).2 (hin.subset List.mem_cons_self)
    · exact fun hhead => (plain_of_spaces he).2 (List.mem_of_head? hhead)
    · exact fun hlink => (plain_of_spaces he).1 (List.mem_of_head? (head_of_link e hlink))
  have hall := hfront.between (separate_enclosed (o := '[') (c := ']') (by decide))
    (fun w hw => hw.enclosed) (Enclosed.intro hx.1 hx.2) (fun hlink => hno hlink.inside) hr
  simpa using hall

-- -----------------------------------------------------------------------------------------
-- Spaces in front of the end
-- -----------------------------------------------------------------------------------------

def solidInside : Pattern :=
  opt (many (noneOf "[]|") ++ lit "|") ++ manyLazy (noneOf "[]") ++ noneOfOrBlank "[]"

def gapBeforeEnd : Pattern :=
  lit "[[" ++ group 1 solidInside ++ many1 (lit " ") ++ lit "]]" ++ opt (lit " ")

theorem spaceBeforeEnd_eq : spaceBeforeEnd = .of gapBeforeEnd spaceBeforeEnd.newText := rfl

theorem lexical_gapBeforeEnd : gapBeforeEnd.Lexical := ⟨rfl, rfl, rfl⟩

theorem solidInside_reads (h : solidInside.Forms x gs) : Plain x ∧ Solid x ∧ gs = [] := by
  have hplain := plain_of_reads h (by decide)
  have hgs := h.groups_eq_nil rfl
  obtain ⟨x, _, _, _, rfl, -, -, hz⟩ := (forms_append rfl rfl).mp h
  obtain ⟨z, hz, rfl, -⟩ := forms_char.mp hz
  exact ⟨hplain, ⟨x, z, rfl, by simp_all⟩, hgs⟩

theorem forms_solidInside (hplain : Plain x) (hx : Solid x) : solidInside.Forms x [] := by
  obtain ⟨y, z, rfl, hz⟩ := hx
  obtain ⟨hy, hz'⟩ := plain_append.mp hplain
  have hlazy : (opt (many (noneOf "[]|") ++ lit "|") ++ manyLazy (noneOf "[]")).Forms y [] :=
    (forms_append rfl rfl).mpr ⟨[], y, [], [], rfl, rfl, forms_opt.mpr (.inl ⟨rfl, rfl⟩),
      forms_run.mpr ⟨hy.signs, rfl⟩⟩
  refine (forms_append rfl rfl).mpr ⟨y, [z], [], [], rfl, rfl, hlazy, forms_char.mpr ⟨z, ?_, rfl, rfl⟩⟩
  rw [hz, Bool.false_or]
  exact hz'.signs z (by simp)

theorem gapBeforeEnd_reads (h : gapBeforeEnd.Forms w gs) : ∃ g s e,
    w = "[[".toList ++ (g ++ s ++ "]]".toList) ++ e ∧ Plain g ∧ Solid g ∧ Spaces s ∧ s ≠ [] ∧
      Spaces e ∧ gs = [(1, g)] := by
  obtain ⟨_, e, _, _, rfl, rfl, h₄, hend⟩ := (forms_append rfl rfl).mp h
  obtain ⟨_, _, _, _, rfl, rfl, h₃, hclose⟩ := (forms_append rfl rfl).mp h₄
  obtain ⟨_, s, _, _, rfl, rfl, h₂, hs⟩ := (forms_append rfl rfl).mp h₃
  obtain ⟨_, g, _, _, rfl, rfl, hopen, hg⟩ := (forms_append rfl rfl).mp h₂
  obtain ⟨rfl, rfl⟩ := forms_ofText.mp hopen
  obtain ⟨rfl, rfl⟩ := forms_ofText.mp hclose
  obtain ⟨hne, hspaces, rfl⟩ := forms_spaces.mp hs
  obtain ⟨_, rfl, hinside⟩ := forms_group.mp hg
  obtain ⟨hplain, hsolid, rfl⟩ := solidInside_reads hinside
  obtain ⟨he, rfl⟩ := forms_optSpace.mp hend
  exact ⟨g, s, e, by simp, hplain, hsolid, hspaces, hne, by rcases he with rfl | rfl <;> simp [Spaces], rfl⟩

theorem gapBeforeEnd_of_link (w : Text) (h : Link SpaceAtEnd w) : gapBeforeEnd.Words w := by
  obtain ⟨_, hplain, ⟨g, s, rfl, hg, hs, hne⟩, rfl⟩ := h
  obtain ⟨hplain, -⟩ := plain_append.mp hplain
  have hopen : (lit "[[" ++ group 1 solidInside).Words ("[[".toList ++ g) :=
    (words_append rfl rfl).mpr ⟨_, g, rfl, words_ofText.mpr rfl,
      ⟨_, forms_group.mpr ⟨[], rfl, forms_solidInside hplain hg⟩⟩⟩
  have hspaces := (words_append rfl rfl).mpr ⟨_, s, rfl, hopen, ⟨_, forms_spaces.mpr ⟨hne, hs, rfl⟩⟩⟩
  have hclose := (words_append rfl rfl).mpr ⟨_, "]]".toList, rfl, hspaces, words_ofText.mpr rfl⟩
  exact (words_append rfl rfl).mpr
    ⟨_, [], by simp, hclose, ⟨_, forms_optSpace.mpr ⟨.inl rfl, rfl⟩⟩⟩

theorem spaceBeforeEnd_newText (hm : Takes gapBeforeEnd m b w r) : ∃ g s e,
    w = "[[".toList ++ (g ++ s ++ "]]".toList) ++ e ∧ Plain g ∧ Solid g ∧ Spaces s ∧ s ≠ [] ∧ Spaces e ∧
      spaceBeforeEnd.newText m = "[[".toList ++ (g ++ "]]".toList) ++ [' '] := by
  obtain ⟨g, s, e, hw, hplain, hsolid, hs, hne, he, hgs⟩ :=
    gapBeforeEnd_reads (hm.reads.anywhere rfl none [])
  refine ⟨g, s, e, hw, hplain, hsolid, hs, hne, he, ?_⟩
  have hgroup : m.group 1 = g := Match.group_eq_of_texts hgs (by decide) rfl
  simp [spaceBeforeEnd, Replacement.of, hgroup]

theorem free_of_gapBeforeEnd (h : Replaces gapBeforeEnd spaceBeforeEnd.newText b t t') :
    Free (Link SpaceAtEnd) t' := by
  induction h with
  | rest hvacant => exact (hvacant.free lexical_gapBeforeEnd).mono gapBeforeEnd_of_link
  | hit hvacant hm _ ih =>
    obtain ⟨g, s, e, rfl, hplain, hsolid, -, -, -, hnew⟩ := spaceBeforeEnd_newText hm
    have hfront := (hvacant.free lexical_gapBeforeEnd).mono gapBeforeEnd_of_link
    have hall := free_around (e := []) hfront (ih.behind head_of_link (s := [' ']) (by decide))
      (by simp [Spaces]) hplain hsolid.not_spaceAtEnd
    rw [hnew]
    simpa using hall

theorem respaced_gapBeforeEnd (hm : Takes gapBeforeEnd m b w r) :
    Respaced w (spaceBeforeEnd.newText m) := by
  obtain ⟨g, s, e, rfl, hplain, -, hs, hne, he, hnew⟩ := spaceBeforeEnd_newText hm
  have hone : Spaces [' '] := by simp [Spaces]
  rw [hnew]
  refine .of_run (a := g) (s := s ++ e) (k := [' ']) (b := []) ?_ ?_ ?_ (hs.blank.append he.blank)
    (by simp [hne]) hone.blank (by simp)
  · simp only [withoutSpaces_append, withoutSpaces_of_spaces hs, withoutSpaces_of_spaces he,
      withoutSpaces_of_spaces hone, List.append_nil]
  · simp only [withoutBrackets_append, withoutBrackets_open, withoutBrackets_close,
      withoutBrackets_of_plain hplain, withoutBrackets_of_plain (plain_of_spaces hs),
      withoutBrackets_of_plain (plain_of_spaces he), List.append_nil, List.nil_append,
      List.append_assoc]
  · simp only [withoutBrackets_append, withoutBrackets_open, withoutBrackets_close,
      withoutBrackets_of_plain hplain, withoutBrackets_of_plain (plain_of_spaces hone),
      List.append_nil, List.nil_append]

-- -----------------------------------------------------------------------------------------
-- Spaces behind the start
-- -----------------------------------------------------------------------------------------

def anyInside : Pattern := manyLazy (noneOf "[]")

def gapAfterStart : Pattern :=
  opt (lit " ") ++ lit "[[" ++ many1 (lit " ") ++ group 1 anyInside ++ lit "]]"

theorem forms_anyInside (hx : Plain x) : (group 1 anyInside).Forms x [(1, x)] :=
  forms_group.mpr ⟨[], rfl, forms_run.mpr ⟨hx.signs, rfl⟩⟩

theorem spaceAfterStart_eq : spaceAfterStart = .of gapAfterStart spaceAfterStart.newText := rfl

theorem lexical_gapAfterStart : gapAfterStart.Lexical := ⟨rfl, rfl, rfl⟩

theorem gapAfterStart_reads (h : gapAfterStart.Forms w gs) : ∃ e s x,
    w = e ++ ("[[".toList ++ (s ++ x ++ "]]".toList)) ∧ (e = [] ∨ e = [' ']) ∧ Spaces s ∧ s ≠ [] ∧
      Plain x ∧ gs = [(1, x)] := by
  obtain ⟨_, _, _, _, rfl, rfl, h₄, hclose⟩ := (forms_append rfl rfl).mp h
  obtain ⟨_, x, _, _, rfl, rfl, h₃, hx⟩ := (forms_append rfl rfl).mp h₄
  obtain ⟨_, s, _, _, rfl, rfl, h₂, hs⟩ := (forms_append rfl rfl).mp h₃
  obtain ⟨e, _, _, _, rfl, rfl, hstart, hopen⟩ := (forms_append rfl rfl).mp h₂
  obtain ⟨rfl, rfl⟩ := forms_ofText.mp hopen
  obtain ⟨rfl, rfl⟩ := forms_ofText.mp hclose
  obtain ⟨hne, hspaces, rfl⟩ := forms_spaces.mp hs
  obtain ⟨_, rfl, hinside⟩ := forms_group.mp hx
  have hplain := plain_of_reads hinside (by decide)
  obtain ⟨-, rfl⟩ := forms_run.mp hinside
  obtain ⟨he, rfl⟩ := forms_optSpace.mp hstart
  exact ⟨e, s, x, by simp, he, hspaces, hne, hplain, rfl⟩

theorem gapAfterStart_of_link (w : Text) (h : Link SpaceAtStart w) : gapAfterStart.Words w := by
  obtain ⟨x, hplain, hx, rfl⟩ := h
  obtain ⟨x, rfl⟩ : ∃ y, x = ' ' :: y := ⟨x.tail, List.eq_cons_of_mem_head? hx⟩
  have hone : Spaces [' '] := by simp [Spaces]
  have hopen := (words_append (p := opt (lit " ")) (q := lit "[[") rfl rfl).mpr
    ⟨[], "[[".toList, rfl, ⟨_, forms_optSpace.mpr ⟨.inl rfl, rfl⟩⟩, words_ofText.mpr rfl⟩
  have hspaces := (words_append rfl rfl).mpr
    ⟨_, [' '], rfl, hopen, ⟨_, forms_spaces.mpr ⟨by simp, hone, rfl⟩⟩⟩
  have hinside := (words_append rfl rfl).mpr ⟨_, x, rfl, hspaces,
    ⟨_, forms_anyInside (plain_append (x := [' ']).mp hplain).2⟩⟩
  exact (words_append rfl rfl).mpr ⟨_, "]]".toList, by simp, hinside, words_ofText.mpr rfl⟩

/-- The link of a match, without the spaces at its start. -/
def linkOf (w : Text) : Text :=
  "[[".toList ++ ((w.dropWhile (· == ' ')).drop 2).dropWhile (· == ' ')

theorem exists_linkOf (he : e = [] ∨ e = [' ']) (hs : Spaces s) (hne : s ≠ []) (hx : Plain x) :
    ∃ s' x', s ++ x = s' ++ x' ∧ Spaces s' ∧ s' ≠ [] ∧ Plain x' ∧ ¬ SpaceAtStart x' ∧
      linkOf (e ++ ("[[".toList ++ (s ++ x ++ "]]".toList))) = "[[".toList ++ (x' ++ "]]".toList) := by
  have hopen : (e ++ ("[[".toList ++ (s ++ x ++ "]]".toList))).dropWhile (· == ' ') =
      "[[".toList ++ (s ++ x ++ "]]".toList) :=
    dropWhile_append_stop (by rcases he with rfl | rfl <;> simp) (by simp)
  have hall : s ++ x = (s ++ x).takeWhile (· == ' ') ++ (s ++ x).dropWhile (· == ' ') :=
    List.takeWhile_append_dropWhile.symm
  have hstart : ∀ c ∈ ((s ++ x).dropWhile (· == ' ')).head?, (c == ' ') = false := head_dropWhile _ _
  have hs' : Spaces ((s ++ x).takeWhile (· == ' ')) := fun c hc => by
    simpa using List.mem_takeWhile_imp hc
  have hplain := plain_append.mp (hall ▸ plain_append.mpr ⟨plain_of_spaces hs, hx⟩)
  refine ⟨_, _, hall, hs', ?_, hplain.2, fun hspace => ?_, ?_⟩
  · obtain ⟨c, s, rfl⟩ := List.exists_cons_of_ne_nil hne
    simp [hs c List.mem_cons_self]
  · simpa using hstart ' ' hspace
  · rw [linkOf, hopen]
    generalize (s ++ x).takeWhile (· == ' ') = s' at *
    generalize (s ++ x).dropWhile (· == ' ') = x' at *
    have hinside : (s' ++ (x' ++ "]]".toList)).dropWhile (· == ' ') = x' ++ "]]".toList := by
      refine dropWhile_append_stop (by simpa [Spaces] using hs') ?_
      cases x' with
      | nil => simp
      | cons => exact hstart
    rw [hall, List.append_assoc]
    exact congrArg ("[[".toList ++ ·) hinside

/-- The search takes in all the spaces. -/
theorem prefers_gapAfterStart (he : e = [] ∨ e = [' ']) (hs : Spaces s) (hne : s ≠ []) (hx : Plain x)
    (hstart : ¬ SpaceAtStart x) (r : Text) : gapAfterStart.Prefers (fun _ => True)
      (e ++ "[[".toList ++ s ++ x ++ "]]".toList) r [(1, x)] := by
  have hclose : (lit "]]").Prefers (fun _ => True) "]]".toList r [] := prefers_ofText trivial
  have hinside : (group 1 anyInside).Prefers ((lit "]]").Leads fun _ => True) x ("]]".toList ++ r)
      [(1, x)] := by
    refine (prefers_of_unique rfl rfl (forms_run.mpr ⟨hx.signs, rfl⟩) (hclose.leads rfl rfl) ?_).group 1
    rintro w' _ gs' heq hw' ⟨_, r', _, rfl, hclose', -⟩
    obtain ⟨rfl, -⟩ := forms_ofText.mp hclose'
    have hw : Plain w' := plain_of_reads hw' (by decide)
    exact ⟨(append_cons_inj hx.2 hw.2 heq).1.symm, (forms_run.mp hw').2⟩
  have hspaces : (many1 (lit " ")).Prefers ((group 1 anyInside).Leads ((lit "]]").Leads fun _ => True)) s
      (x ++ ("]]".toList ++ r)) [] := by
    obtain ⟨c, s, rfl⟩ := List.exists_cons_of_ne_nil hne
    obtain ⟨hc, hs⟩ := List.forall_mem_cons.mp hs
    change (many1 (char (· == ' '))).Prefers _ _ _ _
    refine prefers_many1 (by simpa using hc) (by simpa using hs) (fun y hy => ?_)
      (hinside.leads rfl rfl)
    cases x with
    | nil =>
      obtain rfl : ']' = y := by simpa using hy
      rfl
    | cons d x =>
      obtain rfl : d = y := by simpa using hy
      simpa [SpaceAtStart] using hstart
  have hopen : (lit "[[").Prefers ((many1 (lit " ")).Leads ((group 1 anyInside).Leads
      ((lit "]]").Leads fun _ => True))) "[[".toList (s ++ (x ++ ("]]".toList ++ r))) [] :=
    prefers_ofText (hspaces.leads rfl rfl)
  have hfirst : (opt (lit " ")).Prefers ((lit "[[").Leads ((many1 (lit " ")).Leads
      ((group 1 anyInside).Leads ((lit "]]").Leads fun _ => True)))) e
        ("[[".toList ++ (s ++ (x ++ ("]]".toList ++ r)))) [] := by
    refine prefers_of_unique rfl rfl (forms_optSpace.mpr ⟨he, rfl⟩) (hopen.leads rfl rfl) ?_
    rintro w' _ gs' heq hw' ⟨_, r', _, rfl, hopen', -⟩
    obtain ⟨rfl, -⟩ := forms_ofText.mp hopen'
    obtain ⟨hw, rfl⟩ := forms_optSpace.mp hw'
    refine ⟨?_, rfl⟩
    rcases he with rfl | rfl <;> rcases hw with rfl | rfl <;> simp_all
  exact (((hfirst.append rfl rfl rfl hopen).append rfl rfl rfl hspaces).append rfl rfl rfl
    hinside).append rfl rfl rfl hclose

/-- A match is replaced by its link, with a space in front of it if that is not at the start of a
line. -/
def moved (m : Match) : Text :=
  if m.before.all (· == '\n') && m.text.head? != some ' ' then linkOf m.text else ' ' :: linkOf m.text

theorem spaceAfterStart_apply (t : Text) :
    spaceAfterStart.apply t = gapAfterStart.compile.replaceAll moved t := by
  refine Regex.replaceAll_congr (r := gapAfterStart.compile) (f := spaceAfterStart.newText) fun m hm => ?_
  obtain ⟨_, _, w, -, htakes⟩ := takes_of_mem_matches hm
  obtain ⟨e, s, x, hw, he, hs, hne, hx, -⟩ := gapAfterStart_reads (htakes.reads.anywhere rfl none [])
  obtain ⟨s', x', heq, hs', hne', hx', hstart, hlink⟩ := exists_linkOf he hs hne hx
  have htext : m.text = e ++ "[[".toList ++ s' ++ x' ++ "]]".toList := by
    simp [htakes.text, hw, heq]
  obtain ⟨-, hgs⟩ := eq_of_prefers (r := m.after) rfl rfl hm (congrArg (· ++ m.after) htext)
    (prefers_gapAfterStart he hs' hne' hx' hstart m.after)
  have hgroup : m.group 1 = x' := Match.group_eq_of_texts hgs (by decide) rfl
  have hlink' : linkOf m.text = "[[".toList ++ m.group 1 ++ "]]".toList := by
    rw [htakes.text, hw, hlink, hgroup, List.append_assoc]
  rw [moved, hlink']
  rfl

/-- A space at one of the edges. -/
def Loose (x : Text) : Prop := SpaceAtStart x ∨ SpaceAtEnd x

theorem free_loose (hstart : Free (Link SpaceAtStart) t) (hend : Free (Link SpaceAtEnd) t) :
    Free (Link Loose) t := by
  rintro w ⟨x, hplain, hx | hx, rfl⟩ hin
  · exact hstart _ ⟨x, hplain, hx, rfl⟩ hin
  · exact hend _ ⟨x, hplain, hx, rfl⟩ hin

/-- What stands in the place of a match is the link, with or without a space in front of it. -/
theorem moved_eq (m : Match) : ∃ e, Spaces e ∧ moved m = e ++ linkOf m.text := by
  unfold moved
  split
  · exact ⟨[], by simp [Spaces], rfl⟩
  · exact ⟨[' '], by simp [Spaces], rfl⟩

theorem free_of_gapAfterStart (h : Replaces gapAfterStart moved b t t')
    (hend : Free (Link SpaceAtEnd) t) : Free (Link Loose) t' := by
  induction h with
  | rest hvacant =>
    exact free_loose ((hvacant.free lexical_gapAfterStart).mono gapAfterStart_of_link) hend
  | @hit b u w r m r' hvacant hm _ ih =>
    obtain ⟨e, s, x, rfl, he, hs, hne, hx, -⟩ := gapAfterStart_reads (hm.reads.anywhere rfl none [])
    obtain ⟨s', x', heq, hs', hne', hx', hstart, hlink⟩ := exists_linkOf he hs hne hx
    obtain ⟨e', he', hmoved⟩ := moved_eq m
    have hfront : Free (Link Loose) u := free_loose
      ((hvacant.free lexical_gapAfterStart).mono gapAfterStart_of_link)
      (hend.within (List.prefix_append _ _).isInfix)
    have hbehind := ih (hend.within ⟨u ++ (e ++ ("[[".toList ++ (s ++ x ++ "]]".toList))), [], by simp⟩)
    have htight : ¬ Loose x' := by
      rintro (hspace | hspace)
      · exact hstart hspace
      · -- The spaces were there before, in front of the end of the same link.
        exact hend _ ⟨s ++ x, plain_append.mpr ⟨plain_of_spaces hs, hx⟩,
          heq ▸ hspace.append_left s', rfl⟩ ⟨u ++ e, r, by simp⟩
    have hall := free_around hfront hbehind he' hx' htight
    rw [hmoved, hm.text, hlink]
    simpa using hall

theorem spaceAfterStart_newText (hm : Takes gapAfterStart m b w r) : ∃ e s x,
    w = e ++ ("[[".toList ++ (s ++ x ++ "]]".toList)) ∧ Spaces e ∧ Spaces s ∧ s ≠ [] ∧ Plain x ∧
      (spaceAfterStart.newText m = [' '] ++ ("[[".toList ++ (x ++ "]]".toList)) ∨ e = [] ∧
        (b = none ∨ b = some '\n') ∧ spaceAfterStart.newText m = "[[".toList ++ (x ++ "]]".toList)) := by
  obtain ⟨e, s, x, hw, he, hs, hne, hx, hgs⟩ := gapAfterStart_reads (hm.reads.anywhere rfl none [])
  refine ⟨e, s, x, hw, by rcases he with rfl | rfl <;> simp [Spaces], hs, hne, hx, ?_⟩
  have hgroup : m.group 1 = x := Match.group_eq_of_texts hgs (by decide) rfl
  have hnew : spaceAfterStart.newText m = if m.before.all (· == '\n') && m.text.head? != some ' ' then
      "[[".toList ++ m.group 1 ++ "]]".toList else ' ' :: ("[[".toList ++ m.group 1 ++ "]]".toList) := rfl
  rw [hnew, hgroup, List.append_assoc]
  split
  · rename_i hline
    rw [Bool.and_eq_true, hm.before, hm.text, hw] at hline
    refine .inr ⟨?_, ?_, rfl⟩
    · rcases he with rfl | rfl
      · rfl
      · exact absurd hline.2 (by simp)
    · cases b with
      | none => exact .inl rfl
      | some c => exact .inr (by simpa using hline.1)
  · exact .inl rfl

/-- At the start of a line the white space in front of the link is the line end, or there is nothing. -/
theorem kept_gapAfterStart (hm : Takes gapAfterStart m b w r) (hx : lastOf none x = b) :
    Kept (x ++ (w ++ r)) (x ++ (spaceAfterStart.newText m ++ r)) := by
  obtain ⟨e, s, y, rfl, he, hs, hne, hy, hnew | ⟨rfl, hb, hnew⟩⟩ := spaceAfterStart_newText hm
  · have hone : Spaces [' '] := by simp [Spaces]
    rw [hnew]
    refine Respaced.kept (.of_run (a := []) (s := e ++ s) (k := [' ']) (b := y) ?_ ?_ ?_
      (he.blank.append hs.blank) (by simp [hne]) hone.blank (by simp)) x r
    · simp only [withoutSpaces_append, withoutSpaces_of_spaces hs, withoutSpaces_of_spaces he,
        withoutSpaces_of_spaces hone, List.nil_append]
    · simp only [withoutBrackets_append, withoutBrackets_open, withoutBrackets_close,
        withoutBrackets_of_plain hy, withoutBrackets_of_plain (plain_of_spaces hs),
        withoutBrackets_of_plain (plain_of_spaces he), List.append_nil, List.nil_append,
        List.append_assoc]
    · simp only [withoutBrackets_append, withoutBrackets_open, withoutBrackets_close,
        withoutBrackets_of_plain hy, withoutBrackets_of_plain (plain_of_spaces hone),
        List.append_nil, List.nil_append]
  · have hline : ∀ c ∈ (withoutBrackets x).getLast?, Chars.isBlank c = true := by
      rw [lastOf_eq, Option.or_none] at hx
      rcases hb with rfl | rfl
      · obtain rfl := List.getLast?_eq_none_iff.mp hx
        simp [withoutBrackets]
      · obtain ⟨x, rfl⟩ := List.getLast?_eq_some_iff.mp hx
        simp [withoutBrackets, Chars.isBlank]
    rw [hnew]
    refine ⟨?_, ?_⟩
    · simp only [withoutSpaces_append, withoutSpaces_of_spaces hs, List.nil_append]
    · simp only [withoutBrackets_append, withoutBrackets_open, withoutBrackets_close,
        withoutBrackets_of_plain hy, withoutBrackets_of_plain (plain_of_spaces hs), List.nil_append,
        List.append_assoc]
      exact (words_behind_blank hline hs.blank _).symm

-- -----------------------------------------------------------------------------------------
-- Runs of spaces
-- -----------------------------------------------------------------------------------------

def spaceRunPattern : Pattern := atLeast 2 (lit " ")

theorem spaceRun_takes (hm : Takes spaceRunPattern m b w r) :
    Spaces w ∧ w ≠ [] ∧ r.head? ≠ some ' ' := by
  obtain ⟨-, hnext⟩ := hm.settles
  refine ⟨?_, hm.reads.ne_nil rfl, fun hr => absurd (hnext ' ' hr) (by decide)⟩
  obtain ⟨rs, hrs, -, rfl⟩ := hm.reads.rounds rfl
  intro c hc
  obtain ⟨s, hs, hc⟩ := List.mem_flatten.mp hc
  obtain rfl := words_ofText.mp (hrs s hs)
  simpa using hc

/-- Where the search finds nothing, no two spaces stand side by side. -/
theorem chain_of_vacant (h : Vacant spaceRunPattern b u r) :
    u.IsChain (fun x y => ¬ (x = ' ' ∧ y = ' ')) ∧ (u.getLast? = some ' ' → r.head? ≠ some ' ') := by
  have hone : ∀ s ∈ [[' '], [' ']], (lit " ").Words s := by
    have hspace : (lit " ").Words [' '] := words_ofText.mpr rfl
    simpa using hspace
  have htwo : spaceRunPattern.Words [[' '], [' ']].flatten := words_rounds rfl hone (by simp)
  obtain ⟨gs, hreads⟩ := htwo
  refine ⟨?_, fun hu hr => ?_⟩
  · rw [List.isChain_iff_forall_rel_of_append_cons_cons]
    rintro _ _ a k heq ⟨rfl, rfl⟩
    exact h a (' ' :: ' ' :: k) [' ', ' '] (k ++ r) gs heq (by simp) rfl (hreads.anywhere rfl _ _)
  · obtain ⟨a, rfl⟩ := List.getLast?_eq_some_iff.mp hu
    obtain ⟨r, rfl⟩ := List.head?_eq_some_iff.mp hr
    exact h a [' '] [' ', ' '] r gs rfl (by simp) rfl (hreads.anywhere rfl _ _)

/-- By induction on the matches: between them no two spaces stand side by side, and what stands
around them does not go on with a space. -/
theorem squeeze_of_spaceRun (h : Replaces spaceRunPattern (fun _ => [' ']) b t t') :
    t' = squeeze t := by
  induction h with
  | rest hvacant => exact (squeeze_of_isChain (chain_of_vacant hvacant).1).symm
  | @hit b u w r m r' hvacant hm _ ih =>
    obtain ⟨hw, hne, hr⟩ := spaceRun_takes hm
    obtain ⟨hchain, hlast⟩ := chain_of_vacant hvacant
    have hhead : (w ++ r).head? = some ' ' := by
      obtain ⟨c, w, rfl⟩ := List.exists_cons_of_ne_nil hne
      rw [hw c List.mem_cons_self]
      rfl
    rw [squeeze_append fun hu => absurd hhead (hlast hu), squeeze_append fun _ => hr,
      squeeze_of_isChain hchain, squeeze_spaces hw hne, ih]

theorem spaceRun_apply (t : Text) : spaceRun.apply t = squeeze t :=
  squeeze_of_spaceRun (replaces_apply (p := spaceRunPattern) rfl rfl _ t)

-- -----------------------------------------------------------------------------------------
-- Spaces in targets
-- -----------------------------------------------------------------------------------------

def doubleSpace : Pattern :=
  lit "[[" ++ many (noneOf "[]|\n") ++ lit "  " ++ many (noneOf "[]|\n") ++ oneOf "|]"

theorem lexical_doubleSpace : doubleSpace.Lexical := ⟨rfl, rfl, rfl⟩

/-- Opening brackets, up to the first pipe or closing bracket. -/
def Opened (w : Text) : Prop :=
  ∃ x c, w = '[' :: '[' :: (x ++ [c]) ∧ '[' ∉ x ∧ '|' ∉ x ∧ ']' ∉ x ∧ (c = '|' ∨ c = ']')

theorem separate_opened : Separate Opened := by
  rintro w w' a r r' ⟨x, c, rfl, ho, hp, hb, hc⟩ ⟨x', c', rfl, -, hp', hb', hc'⟩ h
  have hends : ∀ {x : Text} {c : Char}, '|' ∉ x → ']' ∉ x → c = '|' ∨ c = ']' → c ∉ x := by
    rintro x c hp hb (rfl | rfl)
    · exact hp
    · exact hb
  have hfirst : '[' ∉ x ++ [c] := by rcases hc with rfl | rfl <;> simpa using ho
  rcases a with _ | ⟨a₁, _ | ⟨a₂, a⟩⟩
  · have htail : x ++ c :: r = x' ++ c' :: r' := by simpa using h
    obtain ⟨k, rfl⟩ := exists_append_of_not_mem (hends hp hb hc') htail
    obtain ⟨k', hk⟩ := exists_append_of_not_mem (hends hp' hb' hc) htail.symm
    obtain rfl : k = [] := by
      have hlen := congrArg List.length hk
      simp only [List.length_append] at hlen
      exact List.eq_nil_of_length_eq_zero (by omega)
    rw [List.append_nil, List.append_cancel_left_eq] at htail
    obtain ⟨rfl, -⟩ := List.cons.inj htail
    exact .inl ⟨rfl, by simp⟩
  · have htail : (x ++ [c]) ++ r = '[' :: (x' ++ [c'] ++ r') := by simpa using (List.cons.inj h).2
    obtain ⟨d, k, hk⟩ := List.exists_cons_of_ne_nil (l := x ++ [c]) (by simp)
    rw [hk] at htail hfirst
    exact absurd (List.cons.inj htail).1.symm (by simp_all)
  · simp only [List.cons_append, List.cons.injEq] at h
    obtain ⟨rfl, rfl, htail⟩ := h
    obtain ⟨k, rfl⟩ := exists_append_of_not_mem hfirst htail
    exact .inr ⟨k, by simp⟩

theorem doubleSpace_words (w : Text) (h : doubleSpace.Words w) :
    Opened w ∧ ∃ x y, w = x ++ ' ' :: ' ' :: y := by
  obtain ⟨gs, h⟩ := h
  obtain ⟨_, _, _, _, rfl, -, h₃, hend⟩ := (forms_append rfl rfl).mp h
  obtain ⟨_, y, _, _, rfl, -, h₂, hy⟩ := (forms_append rfl rfl).mp h₃
  obtain ⟨_, _, _, _, rfl, -, h₁, hspaces⟩ := (forms_append rfl rfl).mp h₂
  obtain ⟨_, x, _, _, rfl, -, hopen, hx⟩ := (forms_append rfl rfl).mp h₁
  obtain ⟨rfl, -⟩ := forms_ofText.mp hopen
  obtain ⟨rfl, -⟩ := forms_ofText.mp hspaces
  obtain ⟨c, hc, rfl, -⟩ := forms_char.mp hend
  have hx := (forms_run.mp hx).1
  have hy := (forms_run.mp hy).1
  have hoff : ∀ d ∈ "[]|".toList, d ∉ x ++ "  ".toList ++ y := fun d hd hm => by
    rcases List.mem_append.mp hm with hm | hm
    · rcases List.mem_append.mp hm with hm | hm
      · have := hx d hm
        simp_all
      · simp_all
    · have := hy d hm
      simp_all
  refine ⟨⟨x ++ "  ".toList ++ y, c, by simp, hoff _ (by simp), hoff _ (by simp), hoff _ (by simp), ?_⟩,
    "[[".toList ++ x, y ++ [c], by simp⟩
  simpa using hc

theorem Opened.squeezed (h : Opened w) : Opened (squeeze w) := by
  obtain ⟨x, c, rfl, ho, hp, hb, hc⟩ := h
  have hsign : c ≠ ' ' := by rcases hc with rfl | rfl <;> decide
  refine ⟨squeeze x, c, ?_, ?_, ?_, ?_, hc⟩
  · rw [squeeze_cons (by simp), squeeze_cons (by simp), squeeze_append_cons hsign]
    rfl
  all_goals rwa [mem_squeeze]

theorem doubleSpaceInTarget_newText (hm : Takes doubleSpace m b w r) :
    doubleSpaceInTarget.newText m = squeeze w := by
  rw [← spaceRun_apply, ← hm.text]
  rfl

theorem free_of_doubleSpace (h : Replaces doubleSpace doubleSpaceInTarget.newText b t t') :
    Free doubleSpace.Words t' := by
  induction h with
  | rest hvacant => exact hvacant.free lexical_doubleSpace
  | @hit b u w r m r' hvacant hm _ ih =>
    have hopened := (doubleSpace_words w ⟨_, hm.reads.anywhere rfl _ _⟩).1.squeezed
    rw [doubleSpaceInTarget_newText hm]
    refine (hvacant.free lexical_doubleSpace).between separate_opened
      (fun w hw => (doubleSpace_words w hw).1) hopened (fun hword => ?_) ih
    obtain ⟨-, x, y, heq⟩ := doubleSpace_words _ hword
    exact List.isChain_iff_forall_rel_of_append_cons_cons.mp (isChain_squeeze w) heq ⟨rfl, rfl⟩

theorem squeeze_doubleSpaceInTarget (t : Text) : squeeze (doubleSpaceInTarget.apply t) = squeeze t := by
  refine replaceAll_related (R := fun t u => squeeze u = squeeze t) (p := doubleSpace) (fun _ => rfl)
    (fun h h' => h'.trans h) fun {m b w r} _ hm x => ?_
  have hnew : doubleSpaceInTarget.newText m = squeeze w := doubleSpaceInTarget_newText hm
  calc squeeze (x ++ (doubleSpaceInTarget.newText m ++ r))
      = squeeze (x ++ squeeze (squeeze w ++ r)) := by rw [hnew, squeeze_append_squeeze]
    _ = squeeze (x ++ (w ++ r)) := by rw [squeeze_squeeze_append, squeeze_append_squeeze]

/-- The links of a text are those of a text with other runs of spaces, up to the spaces in them. -/
theorem free_of_squeeze (hP : ∀ {x x'}, squeeze x' = squeeze x → P x' → P x)
    (hs : squeeze t' = squeeze t) (h : Free (Link P) t) : Free (Link P) t' := by
  rintro _ ⟨x', hplain, hx', rfl⟩ ⟨a, b, rfl⟩
  have hall : squeeze t = squeeze a ++ '[' :: '[' :: (squeeze x' ++ ']' :: ']' :: squeeze b) := by
    have hlist : a ++ ("[[".toList ++ (x' ++ "]]".toList)) ++ b =
        a ++ '[' :: '[' :: (x' ++ ']' :: ']' :: b) := by simp
    rw [← hs, hlist, squeeze_append_cons (by decide), squeeze_cons (by simp),
      squeeze_append_cons (by decide), squeeze_cons (by simp)]
  obtain ⟨u, _, rfl, -, h₁⟩ := exists_of_squeeze (by decide) hall
  obtain ⟨n, _, rfl, hn, h₂⟩ := exists_of_squeeze (x := []) (by decide) h₁
  obtain ⟨x, _, rfl, hx, h₃⟩ := exists_of_squeeze (by decide) h₂
  obtain ⟨k, v, rfl, hk, -⟩ := exists_of_squeeze (x := []) (by decide) h₃
  obtain rfl := squeeze_eq_nil.mp hn
  obtain rfl := squeeze_eq_nil.mp hk
  have hsame : Plain x := by
    rw [Plain, ← mem_squeeze, ← mem_squeeze _ x, hx, mem_squeeze, mem_squeeze]
    exact hplain
  exact h _ ⟨x, hsame, hP hx.symm hx', rfl⟩ ⟨u, v, by simp⟩

theorem loose_of_squeeze (hs : squeeze x' = squeeze x) (h : Loose x') : Loose x := by
  rcases h with h | ⟨_, s, rfl, ⟨y, z, rfl, hz⟩, hspaces, hne⟩
  · refine .inl ?_
    rw [SpaceAtStart, ← head_squeeze, ← hs, head_squeeze]
    exact h
  · have hsign : z ≠ ' ' := by
      rintro rfl
      exact absurd hz (by decide)
    rw [List.append_assoc, List.singleton_append, squeeze_append_cons hsign] at hs
    obtain ⟨y', s', rfl, -, hs'⟩ := exists_of_squeeze hsign hs.symm
    refine .inr ⟨y' ++ [z], s', by simp, ⟨y', z, rfl, hz⟩, fun c hc => ?_, fun hnil => ?_⟩
    · rw [← mem_squeeze, hs', mem_squeeze] at hc
      exact hspaces c hc
    · rw [hnil] at hs'
      exact hne (squeeze_eq_nil.mp hs'.symm)

-- -----------------------------------------------------------------------------------------
-- All three
-- -----------------------------------------------------------------------------------------

namespace Kept

theorem refl (t : Text) : Kept t t := ⟨rfl, rfl⟩

theorem trans (h : Kept t u) (h' : Kept u v) : Kept t v := ⟨h'.1.trans h.1, h'.2.trans h.2⟩

theorem spaceBeforeEnd (t : Text) : Kept t (spaceBeforeEnd.apply t) :=
  replaceAll_related (p := gapBeforeEnd) .refl .trans fun _ hm x => (respaced_gapBeforeEnd hm).kept x _

theorem doubleSpaceInTarget (t : Text) : Kept t (doubleSpaceInTarget.apply t) :=
  replaceAll_related (p := doubleSpace) .refl .trans fun {m b w r} _ hm x => by
    have hnew : Fix.doubleSpaceInTarget.newText m = squeeze w := doubleSpaceInTarget_newText hm
    have hkept := (Respaced.squeezed w).kept x r
    rwa [← hnew] at hkept

theorem lastOf_link (b : Option Char) (u x : Text) :
    lastOf b (u ++ ("[[".toList ++ (x ++ "]]".toList))) = some ']' := by
  rw [lastOf_append, lastOf_append, lastOf_append]
  rfl

/-- The text made so far ends like the text that it was made from. -/
theorem spaceAfterStart (t : Text) : Kept t (spaceAfterStart.apply t) := by
  refine related_pieces (p := gapAfterStart) (W := fun b x => lastOf none x = b) (x := []) .refl .trans
    (fun b x u hx => ?_) (fun _ hm hx => ⟨kept_gapAfterStart hm hx, ?_⟩) (Regex.cuts_pieces _ t) rfl
  · rw [lastOf_append, hx]
  · obtain ⟨e, s, y, rfl, -, -, -, -, hnew | ⟨-, -, hnew⟩⟩ := spaceAfterStart_newText hm
    · rw [hnew, lastOf_append, lastOf_link, lastOf_link]
    · rw [hnew, lastOf_append, lastOf_link]
      exact lastOf_link _ [] y

end Kept

theorem kept_linkEdges (t : Text) : Kept t (linkEdges t) :=
  ((Kept.spaceBeforeEnd t).trans (.spaceAfterStart _)).trans (.doubleSpaceInTarget _)

theorem free_linkEdges (t : Text) :
    Free (Link Loose) (linkEdges t) ∧ Free doubleSpace.Words (linkEdges t) := by
  have hend : Free (Link SpaceAtEnd) (spaceBeforeEnd.apply t) := by
    rw [spaceBeforeEnd_eq]
    exact free_of_gapBeforeEnd (replaces_apply rfl rfl _ t)
  have hedges : Free (Link Loose) (spaceAfterStart.apply (spaceBeforeEnd.apply t)) := by
    rw [spaceAfterStart_apply]
    exact free_of_gapAfterStart (replaces_replaceAll rfl rfl _ _) hend
  exact ⟨free_of_squeeze loose_of_squeeze (squeeze_doubleSpaceInTarget _) hedges,
    free_of_doubleSpace (replaces_apply (p := doubleSpace) rfl rfl _ _)⟩

/-- Where no link has a space at an edge, none is moved. -/
theorem edges_rest (h : Free (Link Loose) t) : spaceBeforeEnd.apply t = t ∧ spaceAfterStart.apply t = t := by
  rw [spaceBeforeEnd_eq, spaceAfterStart_eq]
  refine ⟨replaceAll_of_free lexical_gapBeforeEnd ?_ _, replaceAll_of_free lexical_gapAfterStart ?_ _⟩
  · rintro w ⟨gs, hw⟩ hin
    obtain ⟨g, s, e, rfl, hplain, hg, hs, hne, -⟩ := gapBeforeEnd_reads hw
    exact h _ ⟨g ++ s, plain_append.mpr ⟨hplain, plain_of_spaces hs⟩, .inr ⟨g, s, rfl, hg, hs, hne⟩, rfl⟩
      (List.IsInfix.trans ⟨[], e, by simp⟩ hin)
  · rintro w ⟨gs, hw⟩ hin
    obtain ⟨e, s, x, rfl, -, hs, hne, hplain, -⟩ := gapAfterStart_reads hw
    refine h _ ⟨s ++ x, plain_append.mpr ⟨plain_of_spaces hs, hplain⟩, .inl ?_, rfl⟩
      (List.IsInfix.trans ⟨e, [], by simp⟩ hin)
    obtain ⟨c, s, rfl⟩ := List.exists_cons_of_ne_nil hne
    rw [hs c List.mem_cons_self]
    rfl

theorem linkEdges_linkEdges (t : Text) : linkEdges (linkEdges t) = linkEdges t := by
  obtain ⟨hloose, hdouble⟩ := free_linkEdges t
  obtain ⟨hend, hstart⟩ := edges_rest hloose
  have hsingle : doubleSpaceInTarget.apply (linkEdges t) = linkEdges t :=
    replaceAll_of_free (p := doubleSpace) lexical_doubleSpace hdouble _
  calc linkEdges (linkEdges t)
      = doubleSpaceInTarget.apply (spaceAfterStart.apply (spaceBeforeEnd.apply (linkEdges t))) := rfl
    _ = linkEdges t := by rw [hend, hstart, hsingle]

theorem linkSpaces_nil (t : Text) : linkSpaces [] t = linkEdges t := by
  rw [linkSpaces, if_pos List.isEmpty_nil]
  exact untilStable_of_idempotent (linkEdges_linkEdges t)

/-- Without a title nothing but spaces changes, which divide the same words, and a second time nothing
changes. -/
theorem linkSpaces_keeps (t : Text) : withoutSpaces (linkSpaces [] t) = withoutSpaces t ∧
    words (withoutBrackets (linkSpaces [] t)) = words (withoutBrackets t) ∧
      linkSpaces [] (linkSpaces [] t) = linkSpaces [] t := by
  obtain ⟨hsigns, hwords⟩ := kept_linkEdges t
  rw [linkSpaces_nil, linkSpaces_nil]
  exact ⟨hsigns, hwords, linkEdges_linkEdges t⟩

end Wikitext.Fix.LinkEdges
