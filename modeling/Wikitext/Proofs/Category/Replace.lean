import Wikitext.Proofs.Category.Add
import Wikitext.Proofs.Metadata.Removal

/-!
# Removing and replacing a category

A link that is not removed stands in a gap between those that are, and there it stays
(`mem_remove`). A link that is replaced is read with the new name and the key it had
(`matches_replace`), unless the new category is there already: then the old one is only removed, even
if it is the same one under another spelling (`replace_same`).
-/

namespace Wikitext

/-- A word that is none of the division stands in a gap. -/
theorem Divided.mem_gap {L L' : Text → Prop} (hsep : Separate L) (hL' : ∀ w, L' w → L w)
    (h : Divided L' t parts tail) (hw : L w) (hno : ¬ L' w) (hi : w <:+: t) :
    ∃ u ∈ gaps parts tail, w <:+: u := by
  induction h with
  | @nil u => exact ⟨u, by simp [gaps], hi⟩
  | @cons u x r parts tail _ hx _ ih =>
    have hfirst : u ∈ gaps ((u, x) :: parts) tail := List.mem_cons_self
    have hrest : ∀ y ∈ gaps parts tail, y ∈ gaps ((u, x) :: parts) tail := fun y hy =>
      List.mem_cons_of_mem u hy
    rcases hsep.word_cases hw (hL' x hx) hi with hi | rfl | hi
    · exact ⟨u, hfirst, hi⟩
    · exact absurd hx hno
    · obtain ⟨y, hy, hi⟩ := ih hi
      exact ⟨y, hrest y hy, hi⟩

namespace Category

open Pattern Fix

/-- The text is a link with this name. -/
def Named (ns name w : Text) : Prop := ∃ x k, Link ns w x k ∧ normalName x = name

theorem Named.word (h : Named ns name w) : (linkPattern ns).Words w := by
  obtain ⟨x, k, hlink, -⟩ := h
  exact words_linkPattern.mpr ⟨x, k, hlink⟩

-- -----------------------------------------------------------------------------------------
-- What is written
-- -----------------------------------------------------------------------------------------

theorem replace_of_present (h : HasLink v new t) : replace v old new t = remove v old t := by
  have hnormal : HasLink v (normalName new) t := by rwa [HasLink, normalName_normalName]
  exact if_pos (by rw [stretches_isEmpty.mpr hnormal, Bool.not_false])

theorem hasLink_iff : HasLink v name t ↔
    ∃ r ∈ (v.category.matches' t).map reading, r.1 = normalName name := by
  simp only [HasLink, List.mem_map, exists_exists_and_eq_and, reading]

/-- What is written in the place of a link. -/
def renamed (v : Vocabulary) (old new : Text) (m : Match) : Text :=
  if nameOf m == normalName old then
    link v.profile.categoryNamespace (normalName new ++ m.group 2)
  else m.text

theorem replace_of_missing (h : ¬ HasLink v new t) :
    replace v old new t = v.category.replaceAll (renamed v old new) t := by
  refine if_neg fun hpresent => h ?_
  rw [Bool.not_eq_true', stretches_isEmpty, HasLink, normalName_normalName] at hpresent
  exact hpresent

/-- The reading of a link after the replacement. -/
def renamedReading (old new : Text) (m : Match) : Text × Option Text :=
  if nameOf m = normalName old then (normalName new, (reading m).2) else reading m

-- -----------------------------------------------------------------------------------------
-- Links that stand in a text
-- -----------------------------------------------------------------------------------------

section
variable {p : Profile} {v : Vocabulary} (hv : Vocabulary.ofProfile p = .ok v)
  (hns : Nameable p.categoryNamespace)
include hv hns

theorem named_iff (hm : m ∈ v.category.matches' t) :
    Named p.categoryNamespace name m.text ↔ nameOf m = name := by
  obtain ⟨x, k, hlink, hname, -⟩ := read_match hv hns hm
  rw [hname]
  constructor
  · rintro ⟨x', k', hlink', rfl⟩
    obtain ⟨rfl, -⟩ := hlink.unique hlink'
    rfl
  · exact fun he => ⟨x, k, hlink, he⟩

/-- The search finds every link that stands in the text. -/
theorem mem_matches (t w : Text) : (∃ m ∈ v.category.matches' t, m.text = w) ↔
    (linkPattern p.categoryNamespace).Words w ∧ w <:+: t := by
  have henc := enclosing_linkPattern hns
  rw [category_eq hv]
  exact found_iff henc.toLexical henc.separate t w

-- -----------------------------------------------------------------------------------------
-- Removing
-- -----------------------------------------------------------------------------------------

theorem stretches_eq (name t : Text) : ∃ parts tail,
    Divided (Named p.categoryNamespace (normalName name)) t parts tail ∧
      stretches v t name = stretchesFrom 0 parts := by
  classical
  have henc := enclosing_linkPattern hns
  obtain ⟨parts, tail, hdiv, hplaces⟩ := exists_division henc.toLexical henc.separate
    (fun w => decide (Named p.categoryNamespace (normalName name) w)) t
  have hlanguage : (fun w => (linkPattern p.categoryNamespace).Words w ∧
      decide (Named p.categoryNamespace (normalName name) w) = true) =
      Named p.categoryNamespace (normalName name) := by
    funext w
    simpa using Named.word
  rw [hlanguage] at hdiv
  refine ⟨parts, tail, hdiv, ?_⟩
  rw [← placesFrom_fst, ← hplaces, List.map_map, ← category_eq hv]
  refine congrArg (List.map _) (List.filter_congr fun m hm => ?_)
  rw [Bool.eq_iff_iff, beq_iff_eq, decide_eq_true_eq]
  exact (named_iff hv hns hm).symm

/-- Links to other categories stay where one is removed. -/
theorem mem_remove (hm : m ∈ v.category.matches' t) (hname : nameOf m ≠ normalName name) :
    ∃ m' ∈ v.category.matches' (remove v name t), m'.text = m.text := by
  have henc := enclosing_linkPattern hns
  obtain ⟨parts, tail, hdiv, hstretches⟩ := stretches_eq hv hns name t
  have hfirm : ∀ w, (linkPattern p.categoryNamespace).Words w → Firm w := fun w hw =>
    (henc.enclosed w hw).firm (by decide) (by decide)
  obtain ⟨hw, hi⟩ := (mem_matches hv hns t _).mp ⟨m, hm, rfl⟩
  have hother := fun h => hname ((named_iff hv hns hm).mp h)
  obtain ⟨u, hu, hi⟩ := hdiv.mem_gap henc.separate (fun _ => Named.word) hw hother hi
  have hremains := Stretch.remains_removeAll (fun w hw => hfirm w hw.word) hdiv
  rw [← hstretches] at hremains
  exact (mem_matches hv hns _ _).mpr ⟨hw, hremains.infix_of_mem (hfirm _ hw) hu hi⟩

-- -----------------------------------------------------------------------------------------
-- Replacing
-- -----------------------------------------------------------------------------------------

/-- What is written is a link with the new name and the old key. -/
theorem link_renamed (old : Text) (hx : Plain new) (hm : m ∈ v.category.matches' t) : ∃ x k,
    Link p.categoryNamespace (renamed v old new m) x k ∧
      readingOf x k = renamedReading old new m := by
  obtain ⟨x, k, hlink, hname, hgroup⟩ := read_match hv hns hm
  obtain ⟨hreading, -⟩ := reading_of_text hv hns hm hlink
  unfold renamed renamedReading
  by_cases h : nameOf m = normalName old
  · have hkey : m.group 2 = k := by
      rw [Match.group, hgroup]
      split
      · rename_i he
        exact he.symm
      · rfl
    rw [if_pos (by simpa using h), if_pos h, (names_ofProfile hv).profile, hkey, hreading]
    refine ⟨_, k, link_written (nameable_normalName hx) hlink.keyPart, ?_⟩
    rw [readingOf, normalName_normalName]
    rfl
  · rw [if_neg (by simpa using h), if_neg h]
    exact ⟨x, k, hlink, hreading.symm⟩

/-- A new name in the place of the old one, with the keys and what stands around the links. -/
theorem matches_replace (old : Text) (hx : Plain new) (h : ¬ HasLink v new t) :
    (v.category.matches' (replace v old new t)).map reading =
        (v.category.matches' t).map (renamedReading old new) ∧
      v.category.outside (replace v old new t) = v.category.outside t := by
  have henc := enclosing_linkPattern hns
  have hwords : ∀ m ∈ v.category.matches' t,
      (linkPattern p.categoryNamespace).Words (renamed v old new m) := by
    intro m hm
    obtain ⟨x, k, hlink, -⟩ := link_renamed hv hns old hx hm
    exact words_linkPattern.mpr ⟨x, k, hlink⟩
  rw [category_eq hv] at hwords
  obtain ⟨htexts, houtside⟩ := matches_replaceAll henc.toLexical henc.separate hwords
  rw [← category_eq hv, ← replace_of_missing h] at htexts houtside
  refine ⟨map_eq_map_of_eq htexts fun m' hm' m hm he => ?_, houtside⟩
  obtain ⟨x, k, hlink, hreading⟩ := link_renamed hv hns old hx hm
  rw [← he] at hlink
  rw [(reading_of_text hv hns hm' hlink).1, hreading]

/-- One category in the place of another. Only where links are removed another one with the old name
can come into being. -/
theorem replace_replaces (hx : Plain new) (hne : normalName old ≠ normalName new)
    (hold : HasLink v old t) : HasLink v new (replace v old new t) ∧
      (∀ m ∈ v.category.matches' t, nameOf m ≠ normalName old →
        ∃ m' ∈ v.category.matches' (replace v old new t), reading m' = reading m) ∧
      (¬ HasLink v new t → ¬ HasLink v old (replace v old new t)) := by
  by_cases h : HasLink v new t
  · rw [replace_of_present h]
    have hkept : ∀ m ∈ v.category.matches' t, nameOf m ≠ normalName old →
        ∃ m' ∈ v.category.matches' (remove v old t), reading m' = reading m := by
      intro m hm hname
      obtain ⟨m', hm', htext⟩ := mem_remove hv hns hm hname
      obtain ⟨x, k, hlink, hreading, -⟩ := reads_canonical hv hns hm
      exact ⟨m', hm', by rw [(reading_of_text hv hns hm' (htext ▸ hlink)).1, hreading]⟩
    refine ⟨?_, hkept, fun hno => absurd h hno⟩
    obtain ⟨m, hm, hname⟩ := h
    obtain ⟨m', hm', hreading⟩ := hkept m hm (hname ▸ hne.symm)
    exact ⟨m', hm', (congrArg Prod.fst hreading).trans hname⟩
  · have hreadings := (matches_replace hv hns old hx h).1
    refine ⟨?_, fun m hm hname => ?_, fun _ hleft => ?_⟩
    · obtain ⟨m, hm, hname⟩ := hold
      have hmem := List.mem_map_of_mem (f := renamedReading old new) hm
      rw [← hreadings] at hmem
      exact hasLink_iff.mpr ⟨_, hmem, by rw [renamedReading, if_pos hname]⟩
    · have hmem := List.mem_map_of_mem (f := renamedReading old new) hm
      rw [← hreadings, renamedReading, if_neg hname] at hmem
      exact List.mem_map.mp hmem
    · obtain ⟨r, hr, hname⟩ := hasLink_iff.mp hleft
      rw [hreadings] at hr
      obtain ⟨m, -, rfl⟩ := List.mem_map.mp hr
      rw [renamedReading] at hname
      split at hname
      · exact hne hname.symm
      · rename_i hother
        exact hother hname

end

/-- A category that is to take its own place is removed. -/
theorem replace_same (hname : normalName old = normalName new) (h : HasLink v old t) :
    replace v old new t = remove v old t := by
  obtain ⟨m, hm, hm'⟩ := h
  exact replace_of_present ⟨m, hm, hm'.trans hname⟩

/-- So a link is lost when its name is to be written in another way. -/
theorem replace_same_lost : ∃ v, Vocabulary.ofProfile .englishWikipedia = .ok v ∧
    replace v "A".toList "a".toList "[[Category:A]]".toList = [] := by
  have hrun : (Vocabulary.ofProfile .englishWikipedia).toOption.map (fun v =>
      replace v "A".toList "a".toList "[[Category:A]]".toList) = some [] := by
    decide +kernel
  obtain ⟨v, hv, hrun⟩ := Article.exists_ok_of_toOption_map hrun
  exact ⟨v, hv, hrun⟩

end Category

end Wikitext
