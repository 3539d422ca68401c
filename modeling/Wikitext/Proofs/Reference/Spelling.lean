import Wikitext.Proofs.Fix.Harmless
import Wikitext.Proofs.Reference.Attributes

/-!
# One spelling of reference tags keeps their attributes

Every replacement that gives reference tags one spelling changes the inside of one tag at a time, in
a way that keeps its attributes (`Keeps`). So do all passes together: the tags of the text before and
after correspond in their order, and each one that is not loose has the same attributes
(`referenceTags_keep`). A bare name with more words behind it is quoted together with them, also
where the words are attributes.
-/

namespace Wikitext.Reference

open Pattern Fix
open Category (SameCaseless)

-- -----------------------------------------------------------------------------------------
-- Passes
-- -----------------------------------------------------------------------------------------

/-- The tags of both texts correspond in their order. -/
def SameTags (t t' : Text) : Prop := List.Forall₂ Kept (insides t) (insides t')

theorem SameTags.refl (t : Text) : SameTags t t := List.forall₂_same.mpr fun y _ => .refl y

theorem SameTags.trans (h : SameTags t u) (h' : SameTags u v) : SameTags t v :=
  forall₂_trans Kept.trans h h'

/-- The step keeps the attributes of all tags. -/
def Keeps (step : Text → Text) : Prop := ∀ t, SameTags t (step t)

theorem Keeps.comp (hf : Keeps f) (hg : Keeps g) : Keeps fun t => f (g t) := fun t =>
  (hg t).trans (hf (g t))

theorem Keeps.untilStable (h : Keeps f) : Keeps (untilStable f) :=
  untilStable_related SameTags.refl SameTags.trans h

theorem Keeps.nil : Keeps (replaceOnce []) := SameTags.refl

theorem Keeps.cons {r : Replacement} (h : Keeps r.apply) (ht : Keeps (replaceOnce table)) :
    Keeps (replaceOnce (r :: table)) :=
  ht.comp h

theorem keeps_apply {p : Pattern} {f : Match → Text}
    (h : ∀ {t m b w r}, m ∈ p.compile.matches' t → Takes p m b w r →
      ∀ x, SameTags (x ++ (w ++ r)) (x ++ (f m ++ r))) : Keeps (Replacement.of p f).apply := fun _ =>
  replaceAll_related SameTags.refl SameTags.trans h

-- -----------------------------------------------------------------------------------------
-- The replacements of the table
-- -----------------------------------------------------------------------------------------

theorem inside_ref (hf : SameCaseless "ref".toList f) : Inside f :=
  inside_of_sameCaseless ⟨by decide, by decide⟩ hf

/-- The front of an opening tag. -/
theorem front_of_forms (h : (lit "<" ++ blanks ++ (lit "ref").caseless).Forms w gs) :
    ∃ b f, Blank b ∧ SameCaseless "ref".toList f ∧ w = '<' :: (b ++ f) := by
  obtain ⟨_, f, _, _, rfl, -, hfront, hf⟩ := (forms_append rfl rfl).mp h
  obtain ⟨_, b, _, _, rfl, -, hopen, hb⟩ := (forms_append rfl rfl).mp hfront
  obtain ⟨rfl, -⟩ := forms_ofText.mp hopen
  exact ⟨b, f, (forms_blanks.mp hb).1, (forms_ofText_caseless.mp hf).1, rfl⟩

theorem keeps_plainTag : Keeps (Replacement.of
    (lit "<" ++ blanks ++ lit "ref" ++ blanks ++ lit ">").caseless fun _ => "<ref>".toList).apply := by
  refine keeps_apply fun {t m b w r} _ hm x => ?_
  have hw := hm.reads.anywhere rfl none []
  simp only [caseless_append, caseless_blanks, caseless_open, caseless_close] at hw
  obtain ⟨_, _, _, _, rfl, -, hw, hend⟩ := (forms_append rfl rfl).mp hw
  obtain ⟨_, b₂, _, _, rfl, -, hfront, hb₂⟩ := (forms_append rfl rfl).mp hw
  obtain ⟨b₁, f, hb₁, hf, rfl⟩ := front_of_forms hfront
  obtain ⟨rfl, -⟩ := forms_ofText.mp hend
  have hb₂ := (forms_blanks.mp hb₂).1
  have hin : Inside (b₁ ++ (f ++ b₂)) := hb₁.inside.append ((inside_ref hf).append hb₂.inside)
  have hsame := insides_rewritten_tag Kept.refl hin.2 (by decide) (iff_of_false hin.1 (by decide))
    (fun _ => kept_plain hb₁ hf hb₂) x r
  simpa [SameTags] using hsame

theorem keeps_closingTag : Keeps (Replacement.of
    (lit "<" ++ blanks ++ lit "/" ++ blanks ++ lit "ref" ++ blanks ++ lit ">").caseless
    fun _ => "</ref>".toList).apply := by
  refine keeps_apply fun {t m b w r} _ hm x => ?_
  have hw := hm.reads.anywhere rfl none []
  simp only [caseless_append, caseless_blanks, caseless_open, caseless_slash, caseless_close] at hw
  obtain ⟨_, _, _, _, rfl, -, hw, hend⟩ := (forms_append rfl rfl).mp hw
  obtain ⟨_, b₃, _, _, rfl, -, hw, hb₃⟩ := (forms_append rfl rfl).mp hw
  obtain ⟨_, f, _, _, rfl, -, hw, hf⟩ := (forms_append rfl rfl).mp hw
  obtain ⟨_, b₂, _, _, rfl, -, hw, hb₂⟩ := (forms_append rfl rfl).mp hw
  obtain ⟨_, _, _, _, rfl, -, hw, hslash⟩ := (forms_append rfl rfl).mp hw
  obtain ⟨_, b₁, _, _, rfl, -, hopen, hb₁⟩ := (forms_append rfl rfl).mp hw
  obtain ⟨rfl, -⟩ := forms_ofText.mp hopen
  obtain ⟨rfl, -⟩ := forms_ofText.mp hslash
  obtain ⟨rfl, -⟩ := forms_ofText.mp hend
  have hb₁ := (forms_blanks.mp hb₁).1
  have hb₂ := (forms_blanks.mp hb₂).1
  have hb₃ := (forms_blanks.mp hb₃).1
  have hf := inside_ref (forms_ofText_caseless.mp hf).1
  have hslash : Inside "/".toList := ⟨by decide, by decide⟩
  have hin : Inside (b₁ ++ '/' :: (b₂ ++ (f ++ b₃))) :=
    hb₁.inside.append (hslash.append (hb₂.inside.append (hf.append hb₃.inside)))
  have hin' : Inside "/ref".toList := ⟨by decide, by decide⟩
  have hsame := insides_rewritten_tag Kept.refl hin.2 hin'.2 (iff_of_false hin.1 hin'.1)
    (fun _ => kept_closing hb₁) x r
  simpa [SameTags] using hsame

theorem keeps_key : Keeps (Replacement.of (lit "<" ++ blanks ++ lit "ref" ++ nameAttribute).caseless
    fun _ => "<ref name=".toList).apply := by
  refine keeps_apply fun {t m b w r} _ hm x => ?_
  have hw := hm.reads.anywhere rfl none []
  rw [caseless_append _ nameAttribute, caseless_nameAttribute] at hw
  simp only [caseless_append, caseless_blanks, caseless_open] at hw
  obtain ⟨_, _, _, _, rfl, -, hfront, hkey⟩ := (forms_append rfl rfl).mp hw
  obtain ⟨b₁, f, hb₁, hf, rfl⟩ := front_of_forms hfront
  obtain ⟨a, b₂, _, _, rfl, -, ha, hb₂⟩ := (forms_append rfl rfl).mp hkey
  have ha := (forms_nameKey.mp ha).1
  have hb₂ := (forms_blanks.mp hb₂).1
  have hin : Inside (b₁ ++ (f ++ (a ++ b₂))) :=
    hb₁.inside.append ((inside_ref hf).append (ha.inside.append hb₂.inside))
  have hin' : Inside "ref name=".toList := ⟨by decide, by decide⟩
  have hsame := insides_rewritten Kept.refl (r := r) hin.2 hin'.2 (iff_of_false hin.1 hin'.1)
    (fun z _ _ _ => by simpa using kept_key hb₁ hf ha hb₂ z) x
  simpa [SameTags] using hsame

theorem keeps_quoted : Keeps (Replacement.of
    (lit "<ref name=\"" ++ blanks ++ group 1 (manyLazy (noneOf "\"<>")) ++ blanks ++ lit "\"")
    fun m => "<ref name=\"".toList ++ m.group 1 ++ "\"".toList).apply := by
  refine keeps_apply fun {t m b w r} _ hm x => ?_
  have hw := hm.reads.anywhere rfl none []
  obtain ⟨_, _, _, _, rfl, htexts, hw, hend⟩ := (forms_append rfl rfl).mp hw
  obtain ⟨_, b₂, _, _, rfl, rfl, hw, hafter⟩ := (forms_append rfl rfl).mp hw
  obtain ⟨_, name, _, _, rfl, rfl, hw, hname⟩ := (forms_append rfl rfl).mp hw
  obtain ⟨_, b₁, _, _, rfl, rfl, hopen, hbefore⟩ := (forms_append rfl rfl).mp hw
  obtain ⟨rfl, rfl⟩ := forms_ofText.mp hopen
  obtain ⟨rfl, rfl⟩ := forms_ofText.mp hend
  obtain ⟨hb₁, rfl⟩ := forms_blanks.mp hbefore
  obtain ⟨hb₂, rfl⟩ := forms_blanks.mp hafter
  obtain ⟨_, rfl, hinner⟩ := forms_group.mp hname
  obtain ⟨hall, rfl⟩ := forms_run.mp hinner
  have hsigns : ∀ c ∈ "\"<>".toList, c ∉ name := by
    intro c hc hmem
    have hother := hall c hmem
    rw [List.contains_iff_mem.mpr hc] at hother
    cases hother
  have hnameInside : Inside name := ⟨hsigns '<' (by decide), hsigns '>' (by decide)⟩
  have hquote : Inside "\"".toList := ⟨by decide, by decide⟩
  have hfront : Inside "ref name=\"".toList := ⟨by decide, by decide⟩
  have hin := hfront.append (hb₁.inside.append (hnameInside.append (hb₂.inside.append hquote)))
  have hin' := hfront.append (hnameInside.append hquote)
  have hsame := insides_rewritten Kept.refl (r := r) hin.2 hin'.2 (iff_of_false hin.1 hin'.1)
    (fun z _ _ _ => by simpa using kept_quoted hb₁ hb₂ (hsigns '"' (by decide)) z) x
  rw [group_of_texts htexts]
  simpa [SameTags] using hsame

theorem keeps_gap : Keeps (Replacement.of
    (group 1 notBlank ++ someGap ++ group 2 (lit "<ref" ++ oneOf " >"))
    fun m => m.group 1 ++ m.group 2).apply := by
  refine keeps_apply fun {t m b w r} _ hm x => ?_
  have hw := hm.reads.anywhere rfl none []
  obtain ⟨_, _, _, _, rfl, htexts, hw, hfront⟩ := (forms_append rfl rfl).mp hw
  obtain ⟨_, g, _, _, rfl, rfl, hfirst, hsome⟩ := (forms_append rfl rfl).mp hw
  obtain ⟨_, rfl, hone⟩ := forms_group.mp hfirst
  obtain ⟨c, -, rfl, rfl⟩ := forms_char.mp hone
  obtain ⟨-, hg, rfl⟩ := forms_run1.mp hsome
  obtain ⟨_, rfl, hinner⟩ := forms_group.mp hfront
  obtain ⟨_, _, _, _, rfl, rfl, hopen, hnext⟩ := (forms_append rfl rfl).mp hinner
  obtain ⟨rfl, rfl⟩ := forms_ofText.mp hopen
  obtain ⟨d, -, rfl, rfl⟩ := forms_char.mp hnext
  have hgap : Inside g := by
    have hsigns : ∀ c ∈ "<>".toList, (" \t".toList.contains c) = false := by decide
    refine ⟨fun hm => ?_, fun hm => ?_⟩
    · exact absurd (hg _ hm) (by rw [hsigns '<' (by decide)]; decide)
    · exact absurd (hg _ hm) (by rw [hsigns '>' (by decide)]; decide)
  have hbefore : m.group 1 = [c] := m.group_eq (by decide) (by rw [htexts]; rfl)
  have hbehind : m.group 2 = "<ref".toList ++ [d] := m.group_eq (by decide) (by rw [htexts]; rfl)
  have hsame := insides_gap hgap (x ++ [c]) ("ref".toList ++ ([d] ++ r))
  have heq : insides (x ++ ([c] ++ g ++ ("<ref".toList ++ [d]) ++ r)) =
      insides (x ++ (m.group 1 ++ m.group 2 ++ r)) := by
    rw [hbefore, hbehind]
    simpa using hsame
  rw [SameTags, heq]
  exact SameTags.refl _

theorem keeps_refTagTable : Keeps (replaceOnce refTagTable) :=
  .cons keeps_plainTag (.cons keeps_closingTag (.cons keeps_key (.cons keeps_quoted (.cons keeps_gap .nil))))

-- -----------------------------------------------------------------------------------------
-- Bare names
-- -----------------------------------------------------------------------------------------

def bareValue : Pattern := noneOfOrBlank "\"'>/" ++ manyLazy (noneOf "\"'>/")

def bareTag : Pattern :=
  lit "<ref name=" ++ group 1 bareValue ++ blanks ++ group 2 (opt (lit "/")) ++ lit ">"

/-- A value without quotes and slashes, and without white space in front. -/
structure Unquoted (x : Text) : Prop where
  ne_nil : x ≠ []
  plain : ∀ c ∈ x, c ∉ "\"'>/".toList
  solid : ∀ c ∈ x.head?, Chars.isBlank c = false

theorem unquoted_of_forms (h : bareValue.Forms w gs) : Unquoted w ∧ gs = [] := by
  rw [bareValue, forms_append rfl rfl] at h
  obtain ⟨_, xs, _, _, rfl, rfl, hfirst, hrun⟩ := h
  obtain ⟨c, hc, rfl, rfl⟩ := forms_char.mp hfirst
  obtain ⟨hxs, rfl⟩ := forms_run.mp hrun
  simp only [Bool.not_eq_true', Bool.or_eq_false_iff, List.contains_eq_mem, decide_eq_false_iff_not]
    at hc hxs
  exact ⟨⟨by simp, List.forall_mem_cons.mpr ⟨hc.2, hxs⟩, Text.solid_cons hc.1 xs⟩, rfl⟩

theorem forms_bareTag (h : bareTag.Forms w gs) : ∃ x b s, Unquoted x ∧ Blank b ∧ Slash s ∧
    gs = [(2, s), (1, x)] ∧ w = "<ref name=".toList ++ (x ++ (b ++ (s ++ ['>']))) := by
  rw [bareTag, forms_append rfl rfl] at h
  obtain ⟨_, _, _, _, rfl, rfl, hw, hend⟩ := h
  obtain ⟨_, _, _, _, rfl, rfl, hw, hstop⟩ := (forms_append rfl rfl).mp hw
  obtain ⟨_, b, _, _, rfl, rfl, hw, hblanks⟩ := (forms_append rfl rfl).mp hw
  obtain ⟨_, _, _, _, rfl, rfl, hopen, hvalue⟩ := (forms_append rfl rfl).mp hw
  obtain ⟨rfl, rfl⟩ := forms_ofText.mp hend
  obtain ⟨_, rfl, hslash⟩ := forms_group.mp hstop
  obtain ⟨hs, rfl⟩ := forms_slash.mp hslash
  obtain ⟨hb, rfl⟩ := forms_blanks.mp hblanks
  obtain ⟨_, rfl, hinner⟩ := forms_group.mp hvalue
  obtain ⟨hx, rfl⟩ := unquoted_of_forms hinner
  obtain ⟨rfl, rfl⟩ := forms_ofText.mp hopen
  exact ⟨_, _, _, hx, hb, hs, rfl, by simp⟩

theorem prefers_bareValue {K : Text → Prop} (hend : Ending "/>".toList K) (hx : Unquoted x)
    (hlast : ∀ c ∈ x.getLast?, Chars.isBlank c = false) (hK : K r) : bareValue.Prefers K x r [] := by
  obtain ⟨c, x, rfl⟩ := List.exists_cons_of_ne_nil hx.ne_nil
  have hplain := List.forall_mem_cons.mp hx.plain
  have hrun : (manyLazy (noneOf "\"'>/")).Prefers K x r [] := by
    refine prefers_manyLazy (fun d hd => by simpa using hplain.2 d hd) (fun u v huv hv => ?_) hK
    refine hend.not_before hv (fun d hd => hlast d ?_) (fun d hd hsign => ?_) r
    · rw [huv, ← List.cons_append, List.getLast?_append, hd, Option.some_or]
      rfl
    · have hsigns : ∀ d ∈ "/>".toList, d ∈ "\"'>/".toList := by decide
      exact hplain.2 d (huv ▸ List.mem_append_right u hd) (hsigns d hsign)
  have hfirst : (noneOfOrBlank "\"'>/").Prefers ((manyLazy (noneOf "\"'>/")).Leads K) [c] (x ++ r) [] := by
    refine prefers_of_unique rfl rfl (forms_char.mpr ⟨c, ?_, rfl, rfl⟩) (hrun.leads rfl rfl) ?_
    · simpa [hx.solid c rfl] using hplain.1
    · rintro w' r' gs' heq hw' -
      obtain ⟨d, -, rfl, rfl⟩ := forms_char.mp hw'
      exact ⟨by simpa using (List.cons.inj heq).1.symm, rfl⟩
  exact hfirst.append rfl rfl rfl hrun

/-- The search leaves the white space behind the words to the rest of the tag. -/
theorem prefers_bareTag (hx : Unquoted x) (hlast : ∀ c ∈ x.getLast?, Chars.isBlank c = false)
    (hb : Blank b) (hs : Slash s) (r : Text) :
    bareTag.Prefers (fun _ => True) ("<ref name=".toList ++ (x ++ (b ++ (s ++ ['>'])))) r
      [(2, s), (1, x)] := by
  have hclose : (lit ">").Prefers (fun _ => True) ['>'] r [] := prefers_ofText trivial
  have hslash := (prefers_slash hs r).group 2
  have hleads := hslash.leads rfl rfl
  have hblanks : blanks.Prefers _ b (s ++ (['>'] ++ r)) [] := prefers_many hb (hs.solid r) hleads
  have hend := (leads_group (i := 2) ▸ ending_slash).blanks
  have hvalue := (prefers_bareValue hend hx hlast (hblanks.leads rfl rfl)).group 1
  have hopen := prefers_ofText (t := "<ref name=".toList) (hvalue.leads rfl rfl)
  have hall := (((hopen.append rfl rfl rfl hvalue).append rfl rfl rfl hblanks).append rfl rfl rfl
    hslash).append rfl rfl rfl hclose
  simpa only [bareTag, lit, List.append_assoc, List.nil_append, List.append_nil,
    List.singleton_append] using hall

/-- By the search's choice, what the bare name of a hit ends with is not white space. -/
theorem solid_of_mem {m : Match} (hmem : m ∈ bareTag.compile.matches' t)
    (htext : m.text = "<ref name=".toList ++ (x ++ (b ++ (s ++ ['>']))))
    (htexts : m.captures.texts = [(2, s), (1, x)]) (hx : Unquoted x) (hb : Blank b) (hs : Slash s) :
    ∀ c ∈ x.getLast?, Chars.isBlank c = false := by
  obtain ⟨b', hsplit, hb'⟩ := Text.trimEnd_append x
  have hsame : Text.trim x = Text.trimEnd x := by rw [Text.trim, Text.trimStart_of_not_blank hx.solid]
  obtain ⟨hstart, hlast⟩ := Text.solid_of_trim (Text.trim_trim x)
  rw [hsame] at hstart hlast
  have hne : Text.trimEnd x ≠ [] := by
    intro hnil
    obtain ⟨c, y, rfl⟩ := List.exists_cons_of_ne_nil hx.ne_nil
    have hblank := Text.trimEnd_eq_nil.mp hnil c List.mem_cons_self
    rw [hx.solid c rfl] at hblank
    cases hblank
  have hplain : ∀ c ∈ Text.trimEnd x, c ∉ "\"'>/".toList := fun c hc =>
    hx.plain c ((Text.trimEnd_isPrefix x).subset hc)
  have hwhole : m.text ++ m.after =
      "<ref name=".toList ++ (Text.trimEnd x ++ (b' ++ b ++ (s ++ ['>']))) ++ m.after := by
    rw [htext, List.append_assoc b', ← List.append_assoc (Text.trimEnd x), ← hsplit]
  obtain ⟨-, hchosen⟩ := eq_of_prefers rfl rfl hmem hwhole
    (prefers_bareTag ⟨hne, hplain, hstart⟩ hlast (hb'.append hb) hs m.after)
  have hend : x = Text.trimEnd x := by simpa [htexts] using hchosen
  rwa [hend]

theorem keeps_bareName : Keeps bareName.apply := by
  refine keeps_apply (p := bareTag) fun {t m b w r} hmem hm x => ?_
  obtain ⟨v, b, s, hv, hb, hs, htexts, rfl⟩ := forms_bareTag (hm.reads.anywhere rfl none [])
  have hlast := solid_of_mem hmem hm.text htexts hv hb hs
  have hvalue : m.group 1 = v := m.group_eq (by decide) (by rw [htexts]; rfl)
  have hslash : m.group 2 = s := m.group_eq (by decide) (by rw [htexts]; rfl)
  simp only [hvalue, hslash, hm.text]
  split
  · rename_i hblank
    have hx : Phrase v := ⟨hv.plain, Text.trim_of_solid hv.solid hlast, List.any_eq_true.mp hblank⟩
    obtain ⟨e, he, hend⟩ : ∃ e, Inside e ∧ (if s.isEmpty then ">" else " />").toList = e ++ ['>'] := by
      rcases hs with rfl | rfl
      · exact ⟨[], ⟨by simp, by simp⟩, rfl⟩
      · exact ⟨" /".toList, ⟨by decide, by decide⟩, rfl⟩
    have hclose : '>' ∉ v := fun hmem => hv.plain _ hmem (by decide)
    have hbefore : '>' ∉ "ref name=".toList ++ (v ++ (b ++ s)) := by
      simp [hclose, hb.inside.2, hs.inside.2]
    have hafter : '>' ∉ "ref name=\"".toList ++ (v ++ '"' :: e) := by simp [hclose, he.2]
    have hopen : '<' ∈ "ref name=".toList ++ (v ++ (b ++ s)) ↔
        '<' ∈ "ref name=\"".toList ++ (v ++ '"' :: e) := by
      simp [hb.inside.1, hs.inside.1, he.1]
    have hsame := insides_rewritten_tag Kept.refl hbefore hafter hopen
      (fun _ => kept_loose hx hb hs _) x r
    rw [hend]
    simpa [SameTags] using hsame
  · exact .refl _

-- -----------------------------------------------------------------------------------------
-- All passes
-- -----------------------------------------------------------------------------------------

/-- The tags before and after correspond in their order, and each one that has attributes and is not
loose keeps them. -/
theorem referenceTags_keep (t : Text) : List.Forall₂ Kept (insides t) (insides (referenceTags t)) :=
  (keeps_bareName.comp keeps_refTagTable.untilStable).untilStable t

/-- A tag that has attributes and is not loose is found with the same ones afterwards. -/
theorem exists_same_attributes (ht : t = a ++ '<' :: (x ++ '>' :: b)) (ha : Shut a) (hx : Inside x)
    (htag : RefTag x as) (hloose : ¬ Loose x) :
    ∃ a' x' b' as', referenceTags t = a' ++ '<' :: (x' ++ '>' :: b') ∧ RefTag x' as' ∧
      List.Forall₂ SameAttribute as as' := by
  have hall := referenceTags_keep t
  obtain ⟨i, rfl⟩ := List.mem_iff_get.mp (mem_insides.mpr ⟨hx, a, b, ht, ha⟩)
  have hkept := hall.get i.isLt (hall.length_eq ▸ i.isLt)
  obtain ⟨as', htag', -, hsame⟩ := hkept as htag hloose
  obtain ⟨-, a', b', ht', -⟩ := mem_insides.mp (List.get_mem _ _)
  exact ⟨a', _, b', as', ht', htag', hsame⟩

/-- A further attribute without quotes becomes a part of the name. -/
example : referenceTags "<ref name=foo group=bar>x</ref>".toList =
    "<ref name=\"foo group=bar\">x</ref>".toList := by decide +kernel

end Wikitext.Reference
