import Wikitext.Fix.Syntax
import Wikitext.Image
import Wikitext.Proofs.Fix.Tables
import Wikitext.Proofs.Fix.Text

/-!
# Fixes that look for the names of a wiki

The patterns of these fixes are built from the names in a profile. They are
harmless as long as the names have no corner brackets.
-/

namespace Wikitext

open Mask Pattern

/-- The names that fixes write or look for have no corner brackets. -/
structure Profile.Unmarked (p : Profile) : Prop where
  category : Bare p.categoryNamespace
  template : Bare p.templateNamespace
  file : ∀ name ∈ p.fileNamespaces, Bare name
  reflist : Bare p.defaultReflist

namespace Fix

-- -----------------------------------------------------------------------------------------
-- Patterns of names
-- -----------------------------------------------------------------------------------------

theorem avoids_firstOf {ps : List Pattern} (h : ∀ p ∈ ps, p.avoids xs = true) :
    (firstOf ps).avoids xs = true := by
  induction ps with
  | nil => exact List.all_eq_true.mpr fun _ _ => rfl
  | cons p ps ih =>
    have hp := h p List.mem_cons_self
    have hps := ih fun q hq => h q (List.mem_cons_of_mem _ hq)
    cases ps with
    | nil => exact hp
    | cons => exact Bool.and_eq_true _ _ |>.mpr ⟨hp, hps⟩

theorem avoids_fileNamespace {p : Profile} (h : ∀ ns ∈ p.fileNamespaces, ∀ c ∈ ns, c ∉ xs) :
    p.fileNamespace.avoids xs = true := by
  unfold Profile.fileNamespace nameAmong
  split
  · rfl
  · refine avoids_firstOf fun q hq => ?_
    obtain ⟨ns, hns, rfl⟩ := List.mem_map.mp hq
    exact avoids_ofText (h ns hns)

-- -----------------------------------------------------------------------------------------
-- Categories, files and templates
-- -----------------------------------------------------------------------------------------

def categoryName : Pattern := manyLazy (noneOf "[]|\n")

def sortKey : Pattern := lit "|" ++ many (noneOf "[]\n")

/-- A category link from a part `front` that has the namespace, up to the name. -/
def categoryLink (front : Pattern) : Pattern :=
  front ++ group 1 categoryName ++ gap ++ opt (group 2 sortKey) ++ lit "]]"

theorem shapes_categoryLink {front : Pattern} (h : front.hasGroups = false) :
    (categoryLink front).shapes = some [
      [.out front, .group 1 categoryName, .out (.seq gap (lit "]]"))],
      [.out front, .group 1 categoryName, .out gap, .group 2 sortKey, .out (lit "]]")]] := by
  have hname : (group 1 categoryName).shapes = some [[.group 1 categoryName]] := rfl
  have hgap : gap.shapes = some [[.out gap]] := rfl
  have hkey : (opt (group 2 sortKey)).shapes = some [[], [.group 2 sortKey]] := rfl
  have hend : (lit "]]").shapes = some [[.out (lit "]]")]] := rfl
  exact shapes_append (shapes_append (shapes_append (shapes_append (shapes_of_hasGroups h) hname)
    hgap) hkey) hend

/-- The parts of a category link before, between and after its groups are written anew. -/
theorem admits_categoryLink {front : Pattern} (hg : front.hasGroups = false)
    (ha : isApart front = true) (ht : Bare t) :
    admits (categoryLink front) [.lit t, .group 1, .group 2, .lit "]]".toList] = true := by
  have hfront : yields front t = true := yields_iff.mpr ⟨ht, .inl ha⟩
  have hgap : yields gap [] = true := by decide
  have hend : yields (lit "]]") "]]".toList = true := by decide
  have hends : yields (.seq gap (lit "]]")) "]]".toList = true := by decide
  refine admits_iff.mpr ⟨_, shapes_categoryLink hg, ?_⟩
  simp only [List.forall_mem_cons, List.not_mem_nil, false_imp_iff, implies_true, and_true]
  refine ⟨⟨?_, by simp [Shape.indices]⟩, ?_, by simp [Shape.indices]⟩
  · change aligned [.out front, .group 1 categoryName, .out (.seq gap (lit "]]"))]
      [.lit t, .group 1, .lit "]]".toList] = true
    simp only [aligned, hfront, hends]
    rfl
  · change aligned
      [.out front, .group 1 categoryName, .out gap, .group 2 sortKey, .out (lit "]]")]
      [.lit t, .group 1, .group 2, .lit "]]".toList] = true
    simp only [aligned, hfront, hgap, hend]
    rfl

/-- A sort key begins with a character that is not part of a placeholder: its pipe. -/
theorem key_begins {front : Pattern} (hg : front.hasGroups = false)
    (hm : Takes (categoryLink front).caseless m b w r) :
    m.group 2 = [] ∨ ∃ x key, m.group 2 = x :: key ∧ x ∉ marks := by
  have hbegin : sortKey.beginsOff ('m' :: marks) = true := by decide
  refine group_begins true hm (by decide) ?_
  rw [groupPasses, shapes_categoryLink hg]
  simp [Shape.indices, hbegin]

/-- What a vocabulary that is made from a profile looks for. -/
structure Names (p : Profile) (v : Vocabulary) : Prop where
  profile : v.profile = p
  category : v.category = (categoryLink (lit "[[" ++ gap ++ ofText p.categoryNamespace ++ gap ++
    lit ":" ++ gap)).caseless.compile
  filePrefix : v.filePrefix =
    (lit "[[" ++ gap ++ group 1 p.fileNamespace ++ gap ++ lit ":" ++ gap).caseless.compile
  templatePrefix : v.templatePrefix =
    (lit "\x7b\x7b" ++ gap ++ ofText p.templateNamespace ++ gap ++ lit ":" ++ gap).caseless.compile
  referenceDisplay : v.referenceDisplay = (lit "<references" ++ boundary <|>
    lit "\x7b\x7b" ++ blanks ++ opt (ofText p.templateNamespace ++ blanks ++ lit ":" ++ blanks) ++
      nameAmong (p.reflistTemplates.map spaceOrUnderscore) ++ blanks ++
        oneOf "|\x7d").caseless.compile

theorem names_ofProfile (hv : Vocabulary.ofProfile p = .ok v) : Names p v := by
  unfold Vocabulary.ofProfile at hv
  cases hs : p.stub with
  | error e => simp [hs, bind, Except.bind] at hv
  | ok stub =>
    simp only [hs, bind, Except.bind, pure, Except.pure, Except.ok.injEq] at hv
    rw [← hv]
    exact ⟨rfl, rfl, rfl, rfl, rfl⟩

section
variable {p : Profile} {v : Vocabulary} (hp : p.Unmarked) (hv : Vocabulary.ofProfile p = .ok v)

/-- A name between brackets on one side and a colon on the other. -/
theorem isApart_beforeName {front : Pattern} (hf : isApart front = true) {name : Pattern}
    (hn : name.avoids corners = true) :
    isApart (front ++ gap ++ name ++ gap ++ lit ":" ++ gap) = true := by
  have hgap : gap.avoids corners = true := by decide
  have hcolon : (lit ":").avoids corners = true := by decide
  exact isApart_append (isApart_append (isApart_append (isApart_append
    (isApart_append hf hgap) hn) hgap) hcolon) hgap

include hp hv

theorem harmless_fixPrefixes : Harmless (Image.fixPrefixes v) := by
  have hnames := names_ofProfile hv
  have hns : p.fileNamespace.avoids corners = true := avoids_fileNamespace hp.file
  change Harmless (v.filePrefix.replaceAll (Image.canonicalPrefix v))
  rw [hnames.filePrefix]
  refine .replaceAll (gentle_caseless_of_bare (isApart_beforeName (by decide) hns) fun m h => ?_)
  have hknown : Bare ((v.profile.fileNamespaces.find? (Text.eqAsciiCase · (m.group 1))).getD
      (m.group 1)) := by
    cases hfind : v.profile.fileNamespaces.find? (Text.eqAsciiCase · (m.group 1)) with
    | none => exact h 1
    | some name => exact hp.file name (hnames.profile ▸ List.mem_of_find?_eq_some hfind)
  simp [Image.canonicalPrefix, hknown, corners]

theorem harmless_fixCategories : Harmless (Category.fixAll v) := by
  have hnames := names_ofProfile hv
  change Harmless (v.category.replaceAll (Category.canonical v))
  rw [hnames.category]
  generalize hf : lit "[[" ++ gap ++ ofText p.categoryNamespace ++ gap ++ lit ":" ++ gap = front
  have hg : front.hasGroups = false := by
    simp only [← hf, hasGroups_append, hasGroups_ofText]
    rfl
  have ha : isApart front = true := hf ▸ isApart_beforeName (by decide) (avoids_ofText hp.category)
  have hhere : Bare ("[[".toList ++ v.profile.categoryNamespace ++ ":".toList) := by
    simp [hnames.profile, hp.category, corners]
  refine .replaceAll ⟨fun {m b w r} hm => ?_⟩
  have hfill := (gentle_caseless_of_slots _ (admits_categoryLink hg ha hhere) fun _ => rfl).edits hm
  have hname : Edits (m.group 1) (Category.nameOf m) := harmless_normalName _
  have hlink : ∀ key, Edits (m.group 2) key →
      Edits w (Category.link v.profile.categoryNamespace (Category.nameOf m ++ key)) := by
    intro key hkey
    have h := hfill.trans ((hname.append (hkey.append_right _)).append_left _)
    simpa [Category.link, fill] using h
  have hempty := hlink []
  rw [List.append_nil] at hempty
  unfold Category.canonical
  dsimp only
  split
  · exact hm.text ▸ .refl
  · unfold Category.keyOf?
    cases hk : m.group? 2 with
    | none =>
      have hkey : m.group 2 = [] := by rw [Match.group, hk, Option.getD_none]
      exact hempty (hkey ▸ .refl)
    | some g =>
      have hkey : m.group 2 = g := by rw [Match.group, hk, Option.getD_some]
      rw [hkey] at hempty hlink
      rcases hkey ▸ key_begins hg hm with rfl | ⟨x, key, rfl, hx⟩
      · exact hempty .refl
      · cases key with
        | nil => exact hempty (.clear (by simpa using hx))
        | cons k key =>
          have hpipe : Edits [x] "|".toList := .of_apart (apart_singleton hx) (by decide)
          simp only [Option.map_some, List.drop_succ_cons, List.drop_zero]
          rw [Category.linkWithKey, List.append_assoc]
          refine hlink _ (hpipe.append ?_)
          split
          · exact .refl
          · exact harmless_trimEnd _

theorem harmless_markup : Harmless (markup v) := by
  have hns : (ofText p.templateNamespace).avoids corners = true := avoids_ofText hp.template
  have hfront : Harmless (v.templatePrefix.replaceAll fun _ => "\x7b\x7b".toList) := by
    rw [(names_ofProfile hv).templatePrefix]
    exact .replaceAll (gentle_caseless_of_bare (isApart_beforeName (by decide) hns) fun _ _ => by decide)
  exact .untilStable (hfront.comp harmless_markupTable)

end

end Fix

end Wikitext
