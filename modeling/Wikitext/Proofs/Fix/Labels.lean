import Wikitext.Fix.Links
import Wikitext.Proofs.Fix.Harmless
import Wikitext.Proofs.Pattern.Words
import Wikitext.Proofs.Text.Basic

/-!
# What a reader sees of links

A link shows its label, or its target if it has none. A label that is the target, or the target with
more lower case letters, needs no pipe. The shorter form of such a link, with the letters behind it,
shows the same and leads to the same page (`Simpler`). Links stand apart from each other, and what is
written anew is a link without a label where there was one with a label, so nothing is left to do.
-/

namespace Wikitext.Fix.Labels

open Pattern

-- -----------------------------------------------------------------------------------------
-- Links
-- -----------------------------------------------------------------------------------------

/-- No brackets and no pipes. -/
def Plain (t : Text) : Prop := ∀ c ∈ t, (!"[]|".toList.contains c) = true

/-- The text is a link to the target, for which a reader sees the label. -/
inductive Link : Text → Text → Text → Prop
  | bare : Plain t → Link ("[[".toList ++ (t ++ "]]".toList)) t t
  | labelled : Plain t → Plain l →
      Link ("[[".toList ++ (t ++ '|' :: (l ++ "]]".toList))) t l

def linkPattern : Pattern :=
  lit "[[" ++ many (noneOf "[]|") ++ opt (lit "|" ++ many (noneOf "[]|")) ++ lit "]]"

def inTarget (c : Char) : Bool := !"|]".toList.contains c

/-- What the link `w` leads to. -/
def target (w : Text) : Text := (w.drop 2).takeWhile inTarget

/-- What a reader sees of the link `w`. -/
def shown (w : Text) : Text :=
  match (w.drop 2).dropWhile inTarget with
  | '|' :: rest => rest.takeWhile (· != ']')
  | _ => target w

/-- The text as a reader sees it, every link by its label. -/
def displayed (t : Text) : Text := linkPattern.compile.replaceAll (fun m => shown m.text) t

/-- What the links of the text lead to, by the names of the pages. -/
def targets (t : Text) : List Text :=
  (linkPattern.compile.matches' t).map fun m => Title.upperFirst (target m.text)

theorem Plain.not_mem (h : Plain t) (hx : x ∈ "[]|".toList) : x ∉ t := fun hm => by
  have := h x hm
  simp_all

theorem enclosing_linkPattern : linkPattern.Enclosing '[' ']' :=
  (((Opening.brackets '[' ']').append (q := many (noneOf "[]|")) rfl (by decide)).append
    (q := opt (lit "|" ++ many (noneOf "[]|"))) rfl (by decide)).enclosing (by decide) rfl

theorem words_linkPattern : linkPattern.Words w ↔ ∃ t l, Link w t l := by
  constructor
  · rintro ⟨gs, h⟩
    obtain ⟨_, _, _, _, rfl, rfl, h₂, hclose⟩ := (forms_append rfl rfl).mp h
    obtain ⟨_, _, _, _, rfl, rfl, h₁, hlabel⟩ := (forms_append rfl rfl).mp h₂
    obtain ⟨_, t, _, _, rfl, rfl, hopen, htarget⟩ := (forms_append rfl rfl).mp h₁
    obtain ⟨rfl, -⟩ := forms_ofText.mp hopen
    obtain ⟨rfl, -⟩ := forms_ofText.mp hclose
    obtain ⟨ht, -⟩ := forms_run.mp htarget
    rcases forms_opt.mp hlabel with ⟨rfl, -⟩ | hlabel
    · refine ⟨t, t, ?_⟩
      have hlink := Link.bare ht
      simpa using hlink
    · obtain ⟨_, l, _, _, rfl, rfl, hpipe, hl⟩ := (forms_append rfl rfl).mp hlabel
      obtain ⟨rfl, -⟩ := forms_ofText.mp hpipe
      have hlink := Link.labelled ht (forms_run.mp hl).1
      exact ⟨t, l, by simpa using hlink⟩
  · rintro ⟨t, l, h⟩
    have hfront : ∀ {t}, Plain t → (lit "[[" ++ many (noneOf "[]|")).Forms ("[[".toList ++ t) [] :=
      fun ht => (forms_append rfl rfl).mpr
        ⟨_, _, [], [], rfl, rfl, forms_ofText.mpr ⟨rfl, rfl⟩, forms_run.mpr ⟨ht, rfl⟩⟩
    refine ⟨[], (forms_append rfl rfl).mpr ?_⟩
    cases h with
    | bare ht =>
      exact ⟨"[[".toList ++ t, _, [], [], by simp, rfl, (forms_append rfl rfl).mpr
        ⟨_, [], [], [], by simp, rfl, hfront ht, forms_opt.mpr (.inl ⟨rfl, rfl⟩)⟩,
        forms_ofText.mpr ⟨rfl, rfl⟩⟩
    | labelled ht hl =>
      refine ⟨"[[".toList ++ t ++ '|' :: l, _, [], [], by simp, rfl, (forms_append rfl rfl).mpr
        ⟨_, _, [], [], rfl, rfl, hfront ht, forms_opt.mpr (.inr ?_)⟩, forms_ofText.mpr ⟨rfl, rfl⟩⟩
      exact (forms_append rfl rfl).mpr ⟨['|'], l, [], [], rfl, rfl, forms_ofText.mpr ⟨rfl, rfl⟩,
        forms_run.mpr ⟨hl, rfl⟩⟩

theorem Link.reads (h : Link w t l) : target w = t ∧ shown w = l := by
  have hall : ∀ {t}, Plain t → ∀ c ∈ t, inTarget c = true := fun ht c hc => by
    have hplain := ht c hc
    simp_all [inTarget]
  cases h with
  | bare ht =>
    have hopen : ("[[".toList ++ (t ++ "]]".toList)).drop 2 = t ++ "]]".toList := rfl
    have htake : (t ++ "]]".toList).takeWhile inTarget = t :=
      Text.takeWhile_append_stop (hall ht) (by simp [inTarget])
    have hdrop : (t ++ "]]".toList).dropWhile inTarget = "]]".toList :=
      Text.dropWhile_append_stop (hall ht) (by simp [inTarget])
    refine ⟨htake, ?_⟩
    rw [shown, hopen, hdrop]
    exact htake
  | labelled ht hl =>
    have hopen : ("[[".toList ++ (t ++ '|' :: (l ++ "]]".toList))).drop 2 =
      t ++ '|' :: (l ++ "]]".toList) := rfl
    have htake : (t ++ '|' :: (l ++ "]]".toList)).takeWhile inTarget = t :=
      Text.takeWhile_append_stop (hall ht) (by simp [inTarget])
    have hdrop : (t ++ '|' :: (l ++ "]]".toList)).dropWhile inTarget = '|' :: (l ++ "]]".toList) :=
      Text.dropWhile_append_stop (hall ht) (by simp [inTarget])
    have hclose : ∀ c ∈ l, (c != ']') = true := fun c hc => by
      have hplain := hl c hc
      simp_all
    have hlabel : (l ++ "]]".toList).takeWhile (· != ']') = l :=
      Text.takeWhile_append_stop hclose (by simp)
    refine ⟨htake, ?_⟩
    rw [shown, hopen, hdrop]
    exact hlabel

-- -----------------------------------------------------------------------------------------
-- Links with a label
-- -----------------------------------------------------------------------------------------

theorem enclosing_pipedLink : pipedLink.Enclosing '[' ']' :=
  ((((Opening.brackets '[' ']').append (q := group 1 (many1 (noneOf "[]|:#"))) rfl (by decide)).append
    (q := lit "|") rfl (by decide)).append (q := group 2 (many1 (noneOf "[]|"))) rfl
      (by decide)).enclosing (by decide) rfl

/-- What a search for links with a label tells of a link. -/
theorem pipedLink_reads (h : pipedLink.Forms w gs) :
    ∃ t l, Plain t ∧ Plain l ∧ w = "[[".toList ++ (t ++ '|' :: (l ++ "]]".toList)) ∧
      gs = [(2, l), (1, t)] := by
  obtain ⟨_, _, _, _, rfl, rfl, h₃, hclose⟩ := (forms_append rfl rfl).mp h
  obtain ⟨_, l, _, _, rfl, rfl, h₂, hl⟩ := (forms_append rfl rfl).mp h₃
  obtain ⟨_, _, _, _, rfl, rfl, h₁, hpipe⟩ := (forms_append rfl rfl).mp h₂
  obtain ⟨_, t, _, _, rfl, rfl, hopen, ht⟩ := (forms_append rfl rfl).mp h₁
  obtain ⟨rfl, rfl⟩ := forms_ofText.mp hopen
  obtain ⟨rfl, rfl⟩ := forms_ofText.mp hpipe
  obtain ⟨rfl, rfl⟩ := forms_ofText.mp hclose
  obtain ⟨_, rfl, htarget⟩ := forms_group.mp ht
  obtain ⟨_, rfl, hlabel⟩ := forms_group.mp hl
  obtain ⟨-, hname, rfl⟩ := forms_run1.mp htarget
  obtain ⟨-, hplain, rfl⟩ := forms_run1.mp hlabel
  refine ⟨t, l, fun c hc => ?_, hplain, by simp, rfl⟩
  have hall := hname c hc
  simp_all

/-- A link with a label has a shorter form, with the end of its label behind it. -/
inductive Shortened : Text → Text → Text → Prop
  | intro : Plain t → Plain (name ++ ending) → (∀ c ∈ ending, 'a' ≤ c ∧ c ≤ 'z') →
      Title.upperFirst name = Title.upperFirst t →
      Shortened ("[[".toList ++ (t ++ '|' :: (name ++ ending ++ "]]".toList)))
        ("[[".toList ++ (name ++ "]]".toList)) ending

/-- The match stays, or becomes the shorter form of the link. -/
theorem simplerLink_cases (h : pipedLink.Forms m.text m.captures.texts) :
    simplerLink m = m.text ∨ ∃ v s, Shortened m.text v s ∧ simplerLink m = v ++ s := by
  obtain ⟨t, l, ht, hl, hw, hgs⟩ := pipedLink_reads h
  have htarget : m.group 1 = t := Match.group_eq_of_texts hgs (by decide) rfl
  have hlabel : m.group 2 = l := Match.group_eq_of_texts hgs (by decide) rfl
  unfold simplerLink
  simp only [htarget, hlabel]
  split
  · exact .inl rfl
  · split
    · rename_i hsame
      have hshort : Shortened ("[[".toList ++ (t ++ '|' :: (l ++ [] ++ "]]".toList))) _ [] :=
        .intro ht (by simpa using hl) (by simp)
          (by simpa [Title.sameName] using Eq.symm (beq_iff_eq.mp hsame))
      exact .inr ⟨_, [], by simpa [hw] using hshort, by simp⟩
    · split
      · rename_i hends
        simp only [Bool.and_eq_true, Title.sameName, beq_iff_eq, List.all_eq_true,
          decide_eq_true_eq] at hends
        obtain ⟨⟨-, hsame⟩, hlower⟩ := hends
        have hsplit := List.take_append_drop t.length l
        have hshort : Shortened
            ("[[".toList ++ (t ++ '|' :: (l.take t.length ++ l.drop t.length ++ "]]".toList))) _ _ :=
          .intro ht (by rwa [hsplit]) hlower hsame
        rw [hsplit] at hshort
        exact .inr ⟨_, _, hw ▸ hshort, by simp⟩
      · exact .inl rfl

/-- What becomes of a match depends on its text alone. -/
theorem simplerLink_congr (h : pipedLink.Forms m.text m.captures.texts)
    (h' : pipedLink.Forms m'.text m'.captures.texts) (heq : m.text = m'.text) :
    simplerLink m = simplerLink m' := by
  obtain ⟨t, l, ht, hl, hw, hgs⟩ := pipedLink_reads h
  obtain ⟨t', l', ht', hl', hw', hgs'⟩ := pipedLink_reads h'
  have hone := (Link.labelled ht hl).reads
  have hother := (Link.labelled ht' hl').reads
  rw [← hw, heq] at hone
  rw [← hw'] at hother
  have htarget : m.group 1 = m'.group 1 := by
    rw [Match.group_eq_of_texts hgs (by decide) rfl, Match.group_eq_of_texts hgs' (by decide) rfl,
      ← hone.1, hother.1]
  have hlabel : m.group 2 = m'.group 2 := by
    rw [Match.group_eq_of_texts hgs (by decide) rfl, Match.group_eq_of_texts hgs' (by decide) rfl,
      ← hone.2, hother.2]
  simp only [simplerLink, htarget, hlabel, heq]

-- -----------------------------------------------------------------------------------------
-- Simpler texts
-- -----------------------------------------------------------------------------------------

/-- Bare links are not touched. -/
theorem not_pipedLink_of_bare (h : Plain t) : ¬ pipedLink.Words ("[[".toList ++ (t ++ "]]".toList)) := by
  rintro ⟨gs, hforms⟩
  obtain ⟨t', l, -, -, heq, -⟩ := pipedLink_reads hforms
  have hmem : '|' ∈ t ++ "]]".toList := by
    have htail := congrArg (List.drop 2) heq
    change t ++ "]]".toList = t' ++ '|' :: (l ++ "]]".toList) at htail
    rw [htail]
    simp
  rcases List.mem_append.mp hmem with hm | hm
  · exact h.not_mem (by decide) hm
  · exact absurd hm (by decide)

theorem words_of_pipedLink (h : pipedLink.Words w) : linkPattern.Words w := by
  obtain ⟨gs, hforms⟩ := h
  obtain ⟨t, l, ht, hl, rfl, -⟩ := pipedLink_reads hforms
  exact words_linkPattern.mpr ⟨t, l, .labelled ht hl⟩

/-- The link `v` with `s` behind it shows the same as the link `w` and leads to the same, and it is
not changed again. -/
structure Simpler (w v s : Text) : Prop where
  link : linkPattern.Words v
  behind : '[' ∉ s
  shown : shown w = shown v ++ s
  target : Title.upperFirst (target v) = Title.upperFirst (target w)
  stays : ∀ m, pipedLink.Forms m.text m.captures.texts → m.text = v → simplerLink m = v

theorem Shortened.simpler (h : Shortened w v s) : Simpler w v s := by
  obtain ⟨ht, hl, hs, hsame⟩ := h
  rename_i t name
  have hname : Plain name := fun c hc => hl c (List.mem_append_left _ hc)
  obtain ⟨htarget, hshown⟩ := (Link.labelled ht hl).reads
  obtain ⟨htarget', hshown'⟩ := (Link.bare hname).reads
  exact {
    link := words_linkPattern.mpr ⟨name, name, .bare hname⟩
    behind := fun hm => absurd (hs _ hm) (by decide)
    shown := by rw [hshown, hshown']
    target := by rw [htarget, htarget', hsame]
    stays := fun m hm heq => absurd ⟨_, heq ▸ hm⟩ (not_pipedLink_of_bare hname) }

/-- What stands in the place of a link with a label is a link again. -/
theorem exists_simpler (h : pipedLink.Forms m.text m.captures.texts) :
    ∃ v s, simplerLink m = v ++ s ∧ Simpler m.text v s := by
  rcases simplerLink_cases h with heq | ⟨v, s, hshort, heq⟩
  · refine ⟨m.text, [], by rw [heq, List.append_nil], words_of_pipedLink ⟨_, h⟩, by simp, by simp,
      rfl, fun m' hm' htext => ?_⟩
    rw [simplerLink_congr hm' h htext, heq]
  · exact ⟨v, s, heq, hshort.simpler⟩

section
variable (hw : linkPattern.Words w) (u r : Text)
include hw

theorem displayed_around : displayed (u ++ (w ++ r)) = displayed u ++ (shown w ++ displayed r) :=
  (search_around enclosing_linkPattern.toLexical enclosing_linkPattern.separate hw u r).2 shown

theorem targets_around :
    targets (u ++ (w ++ r)) = targets u ++ Title.upperFirst (target w) :: targets r := by
  have h := (search_around enclosing_linkPattern.toLexical enclosing_linkPattern.separate hw u r).1
  have hnames := congrArg (List.map fun w => Title.upperFirst (target w)) h
  simpa [targets, Function.comp_def] using hnames

end

/-- No link begins in a text without brackets. -/
theorem read_behind (hs : '[' ∉ s) (t : Text) :
    displayed (s ++ t) = s ++ displayed t ∧ targets (s ++ t) = targets t := by
  obtain ⟨htexts, hshown⟩ := search_behind enclosing_linkPattern.toLexical
    enclosing_linkPattern.separate (fun w hw => (enclosing_linkPattern.enclosed w hw).head) hs t
  have hnames := congrArg (List.map fun w => Title.upperFirst (target w)) htexts
  exact ⟨hshown shown, by simpa [targets, Function.comp_def] using hnames⟩

/-- The second text shows the same and leads to the same, and there is nothing to do in it. -/
structure Settled (t t' : Text) : Prop where
  displayed : displayed t' = displayed t
  targets : targets t' = targets t
  rests : ∀ m, pipedLink.Forms m.text m.captures.texts → m.text <:+: t' → simplerLink m = m.text

/-- By induction on the links with a label. -/
theorem settled_of_outlined (h : Outlined pipedLink t parts tail) :
    Settled t (parts.flatMap (fun part => part.1 ++ simplerLink part.2) ++ tail) := by
  induction h with
  | nil hu => exact ⟨rfl, rfl, fun m hm hin => absurd hin (hu _ ⟨_, hm⟩)⟩
  | @cons u m w r parts tail hu hm _ ih =>
    have hforms : pipedLink.Forms m.text m.captures.texts := hm.text.symm ▸ hm.reads
    have hw := words_of_pipedLink ⟨_, hforms⟩
    obtain ⟨v, s, heq, hnew⟩ := exists_simpler hforms
    rw [← hm.text]
    generalize hr' : parts.flatMap (fun part => part.1 ++ simplerLink part.2) ++ tail = r' at ih
    have hresult : ((u, m) :: parts).flatMap (fun part => part.1 ++ simplerLink part.2) ++ tail =
        u ++ (v ++ (s ++ r')) := by simp [heq, ← hr']
    obtain ⟨hdisplayed, htargets⟩ := read_behind hnew.behind r'
    rw [hresult]
    refine ⟨?_, ?_, fun m' hm' hin => ?_⟩
    · rw [displayed_around hnew.link, displayed_around hw, hdisplayed, ih.displayed, hnew.shown,
        List.append_assoc]
    · rw [targets_around hnew.link, targets_around hw, htargets, ih.targets, hnew.target]
    · have hlink := words_of_pipedLink ⟨_, hm'⟩
      rcases Separate.word_cases enclosing_linkPattern.separate hlink hnew.link hin with hin | hv | hin
      · exact absurd hin (hu _ ⟨_, hm'⟩)
      · rw [hnew.stays m' hm' hv, hv]
      · exact ih.rests m' hm' (infix_behind (enclosing_linkPattern.enclosed _ hlink).head hnew.behind hin)

/-- The text shows the same and leads to the same, and a second time nothing changes. -/
theorem simplifyLinks_keeps (t : Text) : displayed (simplifyLinks t) = displayed t ∧
    targets (simplifyLinks t) = targets t ∧ simplifyLinks (simplifyLinks t) = simplifyLinks t := by
  obtain ⟨parts, tail, hout, hpieces⟩ := exists_outline enclosing_pipedLink.toLexical t
  have hsettled := settled_of_outlined hout
  have hresult : simplifyLinks t =
      parts.flatMap (fun part => part.1 ++ simplerLink part.2) ++ tail :=
    replaceAll_of_pieces hpieces simplerLink
  rw [← hresult] at hsettled
  refine ⟨hsettled.displayed, hsettled.targets, ?_⟩
  refine replaceAll_eq_self enclosing_pipedLink.toLexical fun m hm => ?_
  exact hsettled.rests m (reads_of_mem_matches enclosing_pipedLink.toLexical hm)
    (infix_of_mem_matches hm)

end Wikitext.Fix.Labels
