import Wikitext.Proofs.Category.Canonical
import Wikitext.Proofs.Text.Feeds

/-!
# Adding a category

A link that is added is found again as the last one (`insertion_add`): it stands behind a word or a line
break, so no bracket before it can become part of a link. Then the category is present, and adding
it once more changes nothing.
-/

namespace Wikitext

open Pattern

-- -----------------------------------------------------------------------------------------
-- A word behind the last one
-- -----------------------------------------------------------------------------------------

theorem Outlined.last {p : Pattern} (h : Outlined p t parts tail)
    (hlast : (parts.map (·.2)).getLast? = some m) : m.after = tail ∧ m.stop.left = tail.length := by
  induction h with
  | nil => cases hlast
  | @cons u m' w r parts tail hu hm h ih =>
    cases h with
    | nil =>
      obtain rfl : m' = m := by simpa using hlast
      exact ⟨hm.after, hm.stopLeft⟩
    | cons => exact ih (by simpa using hlast)

/-- A word on the line after the last one. -/
theorem Divided.insert_word {L : Text → Prop} (hL : Capped L) (hnil : Free L [])
    (h : Divided L t parts tail) (hw : L w) :
    Divided L (parts.flatMap (fun part => part.1 ++ part.2) ++ ('\n' :: (w ++ tail)))
      (parts ++ [(['\n'], w)]) tail :=
  h.append_parts (.cons (hL.append_feeds hnil 1) hw (.nil h.tail_free))

namespace Category

open Fix

-- -----------------------------------------------------------------------------------------
-- Categories that are present
-- -----------------------------------------------------------------------------------------

/-- Some link of the text has this name. -/
def HasLink (v : Vocabulary) (name t : Text) : Prop :=
  ∃ m ∈ v.category.matches' t, nameOf m = normalName name

theorem stretches_isEmpty : (stretches v t name).isEmpty = false ↔ HasLink v name t := by
  rw [stretches, List.isEmpty_eq_false_iff, ne_eq, List.map_eq_nil_iff, List.filter_eq_nil_iff]
  simp [HasLink]

theorem HasLink.isPresent (h : HasLink v name t) : isPresent v name t = true := by
  obtain ⟨m, hm, hname⟩ := h
  exact List.any_eq_true.mpr ⟨m, hm, by simp [Title.sameName, hname]⟩

theorem HasLink.add (h : HasLink v name t) : add v name t = t := by
  have hnormal : HasLink v (normalName name) t := by rwa [HasLink, normalName_normalName]
  simp [Category.add, stretches_isEmpty.mpr hnormal]

/-- What is done for a category that is missing. -/
theorem add_of_missing (hname : normalName name ≠ []) (h : ¬ HasLink v name t) : add v name t =
    let link := link v.profile.categoryNamespace (normalName name)
    match (v.category.matches' t).getLast? with
    | some last => t.take (t.length - last.stop.left) ++ "\n".toList ++ link ++ last.after
    | none => Text.trimEnd t ++ "\n\n".toList ++ link := by
  have hempty : (stretches v t (normalName name)).isEmpty = true := by
    by_contra hno
    rw [Bool.not_eq_true, stretches_isEmpty, HasLink, normalName_normalName] at hno
    exact h hno
  exact if_neg (by simp [hname, hempty])

-- -----------------------------------------------------------------------------------------
-- Where the link is put
-- -----------------------------------------------------------------------------------------

/-- What becomes of a text to which a link may be added: it stays, or the link stands on the line
after some link, or at the end of a text without any. -/
inductive Insertion (r : Regex) (link t : Text) : Text → Prop
  | none : Insertion r link t t
  | behind : r.matches' t ≠ [] → t = u ++ s → Insertion r link t (u ++ ('\n' :: (link ++ s)))
  | atEnd : r.matches' t = [] → Insertion r link t (Text.trimEnd t ++ ('\n' :: '\n' :: link))

section
variable {p : Profile} {v : Vocabulary} (hv : Vocabulary.ofProfile p = .ok v)
  (hns : Nameable p.categoryNamespace)
include hv hns

/-- The category is added as a link of its own, which a search finds behind all the others. -/
theorem insertion_add (hname : normalName name ≠ []) (hx : Plain name) (h : ¬ HasLink v name t) :
    Insertion v.category (link p.categoryNamespace (normalName name)) t (add v name t) ∧
      (v.category.matches' (add v name t)).map (·.text) =
        (v.category.matches' t).map (·.text) ++ [link p.categoryNamespace (normalName name)] := by
  have henc := enclosing_linkPattern hns
  have hword : (linkPattern p.categoryNamespace).Words
      (link p.categoryNamespace (normalName name)) :=
    words_linkPattern.mpr ⟨_, _, link_written_bare (nameable_normalName hx)⟩
  have hcapped := capped_enclosed (by decide) henc.enclosed
  rw [add_of_missing hname h, (names_ofProfile hv).profile, category_eq hv]
  generalize link p.categoryNamespace (normalName name) = link at hword
  obtain ⟨parts, tail, hout, hpieces⟩ := exists_outline henc.toLexical t
  have hmatches := matches_of_pieces hpieces
  have hdiv := hout.divided
  cases hlast : ((linkPattern p.categoryNamespace).compile.matches' t).getLast? with
  | some last =>
    rw [hmatches] at hlast
    obtain ⟨hafter, hleft⟩ := hout.last hlast
    have htext := hdiv.text_eq
    have hnew := hdiv.insert_word hcapped (free_nil henc.enclosed) hword
    generalize (Outlined.texts parts).flatMap (fun part => part.1 ++ part.2) = front at htext hnew
    have htake : t.take (t.length - last.stop.left) ++ "\n".toList ++ link ++ last.after =
        front ++ ('\n' :: (link ++ tail)) := by
      simp [htext, hleft, hafter]
    dsimp only
    rw [htake, texts_matches henc.toLexical henc.separate hdiv,
      texts_matches henc.toLexical henc.separate hnew, List.map_append]
    refine ⟨.behind (fun hnil => ?_) htext, rfl⟩
    rw [← hmatches, hnil] at hlast
    cases hlast
  | none =>
    have hnil := List.getLast?_eq_none_iff.mp hlast
    obtain rfl : parts = [] := by simpa [hmatches] using hnil
    obtain rfl : t = tail := hdiv.text_eq
    have hfree := hdiv.tail_free.within (Text.trimEnd_isPrefix t).isInfix
    have hnew := (Divided.nil (hcapped.append_feeds hfree 2)).append_word hword
      (free_nil henc.enclosed)
    have htake : Text.trimEnd t ++ "\n\n".toList ++ link =
      Text.trimEnd t ++ feeds 2 ++ link := rfl
    dsimp only
    rw [htake, texts_matches henc.toLexical henc.separate hnew, hnil]
    refine ⟨?_, rfl⟩
    rw [List.append_assoc]
    exact .atEnd hnil

theorem hasLink_add (hname : normalName name ≠ []) (hx : Plain name) (t : Text) :
    HasLink v name (add v name t) := by
  by_cases h : HasLink v name t
  · rwa [h.add]
  · have hwords := (insertion_add hv hns hname hx h).2
    have hmem : link p.categoryNamespace (normalName name) ∈
        (v.category.matches' (add v name t)).map (·.text) := by
      simp [hwords]
    obtain ⟨m, hm, htext⟩ := List.mem_map.mp hmem
    obtain ⟨x, k, hlink, hx', -⟩ := read_match hv hns hm
    obtain ⟨rfl, -⟩ := hlink.unique (htext ▸ link_written_bare (nameable_normalName hx))
    exact ⟨m, hm, hx'.trans (normalName_normalName name)⟩

/-- A category that is added is present, behind the others and nothing else is changed. Once it is
there, under whatever spelling, it is not added again. -/
theorem add_adds (hname : normalName name ≠ []) (hx : Plain name) (t : Text) :
    isPresent v name (add v name t) = true ∧
      Insertion v.category (link p.categoryNamespace (normalName name)) t (add v name t) ∧
      (∃ added ∈ [[], [link p.categoryNamespace (normalName name)]],
        (v.category.matches' (add v name t)).map (·.text) =
          (v.category.matches' t).map (·.text) ++ added) ∧
      ∀ name', normalName name' = normalName name → add v name' (add v name t) = add v name t := by
  have hthere := hasLink_add hv hns hname hx t
  refine ⟨hthere.isPresent, ?_, ?_, fun name' hname' => ?_⟩
  · by_cases h : HasLink v name t
    · rw [h.add]
      exact .none
    · exact (insertion_add hv hns hname hx h).1
  · by_cases h : HasLink v name t
    · rw [h.add]
      exact ⟨[], by simp, by simp⟩
    · exact ⟨_, by simp, (insertion_add hv hns hname hx h).2⟩
  · have h : HasLink v name' (add v name t) := by
      obtain ⟨m, hm, he⟩ := hthere
      exact ⟨m, hm, he.trans hname'.symm⟩
    exact h.add

end

/-- Next to unclosed brackets, with a name whose first letter has two letters in upper case. -/
theorem add_adds_besideBrackets : ∃ v, Vocabulary.ofProfile .englishWikipedia = .ok v ∧
    (let t := "[[Category:A|[[Category:B]] [[Category:".toList
    let name := " ßa_\nb ".toList
    normalName name ≠ [] ∧ Plain name ∧
      (isPresent v name (add v name t) = true ∧
        Insertion v.category (link "Category".toList (normalName name)) t (add v name t) ∧
        (∃ added ∈ [[], [link "Category".toList (normalName name)]],
          (v.category.matches' (add v name t)).map (·.text) =
            (v.category.matches' t).map (·.text) ++ added) ∧
        ∀ name', normalName name' = normalName name → add v name' (add v name t) = add v name t) ∧
      add v name t =
        "[[Category:A|[[Category:B]]\n[[Category:SSa b]] [[Category:".toList) := by
  have hrun : (Vocabulary.ofProfile .englishWikipedia).toOption.map (fun v =>
      add v " ßa_\nb ".toList "[[Category:A|[[Category:B]] [[Category:".toList) =
        some "[[Category:A|[[Category:B]]\n[[Category:SSa b]] [[Category:".toList := by
    decide +kernel
  obtain ⟨v, hv, hrun⟩ := Article.exists_ok_of_toOption_map hrun
  have hname : normalName " ßa_\nb ".toList ≠ [] := by decide +kernel
  exact ⟨v, hv, hname, by decide, add_adds hv (by decide) hname (by decide) _, hrun⟩

end Category

end Wikitext
