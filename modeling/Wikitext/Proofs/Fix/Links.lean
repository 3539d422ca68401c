import Wikitext.Fix.Links
import Wikitext.Proofs.Fix.Tables
import Wikitext.Proofs.Fix.Text

/-!
# Links

Links of an article to itself are found by its title; what is done to them is
harmless as long as the title has no corner brackets. Targets are changed piece
by piece, and external links become list items in one section of the text.
-/

namespace Wikitext.Fix

open Mask Pattern

-- -----------------------------------------------------------------------------------------
-- Links of an article to itself
-- -----------------------------------------------------------------------------------------

theorem avoids_title (h : Bare title) : (Title.pattern title).avoids corners = true := by
  cases title with
  | nil => rfl
  | cons c cs =>
    obtain ⟨hc, hcs⟩ := bare_cons.mp h
    have hu : (ofText (Chars.toUpper c)).avoids corners = true := avoids_ofText (bare_toUpper hc)
    have hl : (ofText (Chars.toLower c)).avoids corners = true := avoids_ofText (bare_toLower hc)
    have ht : (ofText cs).avoids corners = true := avoids_ofText hcs
    have hall : (ofText (c :: cs)).avoids corners = true := avoids_ofText h
    unfold Title.pattern Title.patternWith
    dsimp only
    split
    · exact hall
    · exact Bool.and_eq_true _ _ |>.mpr ⟨Bool.and_eq_true _ _ |>.mpr ⟨hu, hl⟩, ht⟩

theorem hasGroups_title (title : Text) : (Title.pattern title).hasGroups = false := by
  cases title with
  | nil => rfl
  | cons c cs =>
    unfold Title.pattern Title.patternWith
    dsimp only
    split
    · exact hasGroups_ofText _
    · have h := fun t => hasGroups_ofText t
      exact Bool.or_eq_false_iff.mpr ⟨Bool.or_eq_false_iff.mpr ⟨h _, h _⟩, h _⟩

/-- A link up to the end of a title. -/
def titleLink (title : Text) : Pattern := lit "[[" ++ blanks ++ Title.pattern title ++ blanks

theorem isApart_titleLink (h : Bare title) : isApart (titleLink title) = true :=
  isApart_append (isApart_append (by decide) (avoids_title h)) (by decide)

theorem hasGroups_titleLink (title : Text) : (titleLink title).hasGroups = false := by
  simp only [titleLink, hasGroups_append, hasGroups_title]
  rfl

theorem harmless_ownSection (h : Bare title) : Harmless (ownSection title).apply := by
  let name := lit "#" ++ many1 (noneOf "[]|")
  let label := lit "|" ++ many (noneOf "[]")
  have hname : (group 1 name).shapes = some [[.group 1 name]] := rfl
  have hlabel : (opt (group 2 label)).shapes = some [[], [.group 2 label]] := rfl
  have hclose : (lit "]]").shapes = some [[.out (lit "]]")]] := rfl
  have hshapes : (titleLink title ++ group 1 name ++ opt (group 2 label) ++ lit "]]").shapes =
      some [[.out (titleLink title), .group 1 name, .out (lit "]]")],
        [.out (titleLink title), .group 1 name, .group 2 label, .out (lit "]]")]] :=
    shapes_append (shapes_append (shapes_append
      (shapes_of_hasGroups (hasGroups_titleLink title)) hname) hlabel) hclose
  have hfront : yields (titleLink title) "[[".toList = true :=
    yields_iff.mpr ⟨by decide, .inl (isApart_titleLink h)⟩
  have hend : yields (lit "]]") "]]".toList = true := by decide
  have ha : admits (titleLink title ++ group 1 name ++ opt (group 2 label) ++ lit "]]")
      [.lit "[[".toList, .group 1, .group 2, .lit "]]".toList] = true := by
    refine admits_iff.mpr ⟨_, hshapes, ?_⟩
    simp only [List.forall_mem_cons, List.not_mem_nil, false_imp_iff, implies_true, and_true]
    refine ⟨⟨?_, by simp [Shape.indices]⟩, ?_, by simp [Shape.indices]⟩
    · change aligned _ [.lit "[[".toList, .group 1, .lit "]]".toList] = true
      simp only [aligned, hfront, hend]
      rfl
    · change aligned _ [.lit "[[".toList, .group 1, .group 2, .lit "]]".toList] = true
      simp only [aligned, hfront, hend]
      rfl
  exact .apply (gentle_of_slots _ ha fun m => by simp [fill])

theorem harmless_linkSpaces (h : Bare title) : Harmless (linkSpaces title) := by
  intro t
  unfold linkSpaces
  split
  · exact harmless_linkEdges.untilStable t
  · exact ((harmless_ownSection h).comp harmless_linkEdges).untilStable t

theorem gentle_targetWith (piece : String) {f : Text → Text} (hf : Harmless f)
    (ha : admits (targetWith piece) [.lit "[[".toList, .group 1, .group 2] = true) :
    Gentle (targetWith piece) fun m => "[[".toList ++ f (m.group 1) ++ m.group 2 := by
  refine (gentle_of_slots _ ha fun _ => rfl).trans fun m _ _ _ _ => ?_
  have h := ((hf (m.group 1)).append_right (m.group 2)).append_left "[[".toList
  simpa [fill] using h

theorem harmless_underscores : Harmless underscores.apply := by
  have hf : Harmless (Text.replace "_".toList " ".toList) :=
    harmless_replace (apart_singleton (by decide)) (by decide)
  refine .apply (.either (gentle_text _) (gentle_targetWith "_" hf (by decide)) fun m => ?_)
  split
  · exact .inl rfl
  · exact .inr rfl

theorem harmless_encodedSpaces : Harmless encodedSpaces.apply := by
  have hf : Harmless (Text.replace "%20".toList " ".toList) :=
    harmless_replace ⟨by decide, '%', by decide, by decide⟩ (by decide)
  exact .apply (gentle_targetWith "%20" hf (by decide))

theorem dropAllPrefix_suffix (piece : Text) (n : Nat) (t : Text) :
    dropAllPrefix piece n t <:+ t := by
  induction n generalizing t with
  | zero => exact List.suffix_rfl
  | succ n ih =>
    rw [dropAllPrefix]
    split
    · rename_i rest hd
      rw [Text.dropPrefix?_eq_some.mp hd]
      exact (ih rest).trans (List.suffix_append _ _)
    · exact List.suffix_rfl

theorem bare_unlink_text (h : Bare m.text) (hg : m.group? 1 = none) : Bare (unlink m) := by
  have hsub : ∀ n (t : Text), Bare t → Bare (dropAllPrefix "]]".toList n t.reverse).reverse := by
    intro n t ht
    refine ht.subset fun c hc => ?_
    exact List.mem_reverse.mp ((dropAllPrefix_suffix _ n t.reverse).subset (List.mem_reverse.mp hc))
  unfold unlink
  rw [hg]
  exact bare_trim (hsub _ _ (h.subset (dropAllPrefix_suffix _ _ _).subset))

/-- The label of a link. -/
def linkLabel : Pattern := many (noneOf "[]|")

theorem shapes_linkToSelf (title : Text) :
    (titleLink title ++ opt (lit "|" ++ group 1 linkLabel) ++ lit "]]").shapes =
      some [[.out (.seq (titleLink title) (lit "]]"))],
        [.out (.seq (titleLink title) (lit "|")), .group 1 linkLabel, .out (lit "]]")]] := by
  have hlabel : (opt (lit "|" ++ group 1 linkLabel)).shapes =
      some [[], [.out (lit "|"), .group 1 linkLabel]] := rfl
  have hclose : (lit "]]").shapes = some [[.out (lit "]]")]] := rfl
  exact shapes_append (shapes_append (shapes_of_hasGroups (hasGroups_titleLink title)) hlabel) hclose

/-- The label stays of a link that has one; otherwise the link has no groups at all. -/
theorem harmless_linkToSelf (h : Bare title) :
    Harmless ((linkToSelf title).replaceAll unlink) := by
  have hfront := isApart_titleLink h
  refine .replaceAll ⟨fun {m b w r} hm => ?_⟩
  obtain ⟨s, hs, gs, hf, hhas⟩ := fits_of_takes hm (shapes_linkToSelf title)
  simp only [List.mem_cons, List.not_mem_nil, or_false] at hs
  rcases hs with rfl | rfl
  · obtain ⟨x, _, rfl, hx, rfl, rfl⟩ := hf
    have ha : Apart x := keepsApart false
      (isApart_append hfront (by decide) : isApart (titleLink title ++ lit "]]") = true) _ _ _ _ hx
    have hg : m.group? 1 = none := (hhas (by simp [Shape.indices])).other 1 (by decide) (by simp)
    rw [List.append_nil]
    refine .of_apart ha (bare_unlink_text ?_ hg)
    rw [hm.text, List.append_nil]
    exact ha.bare
  · obtain ⟨x, _, rfl, hx, g, _, _, rfl, rfl, -, y, _, rfl, hy, rfl, rfl⟩ := hf
    have ha : Apart x := keepsApart false
      (isApart_append hfront (by decide) : isApart (titleLink title ++ lit "|") = true) _ _ _ _ hx
    have hb : Apart y := keepsApart false (by decide : isApart (lit "]]") = true) _ _ _ _ hy
    have hg : m.group? 1 = some g :=
      (hhas (by simp [Shape.indices])).group (1, g) List.mem_cons_self
    have hu : unlink m = [] ++ (g ++ ([] ++ [])) := by simp [unlink, hg]
    rw [hu]
    exact (Edits.of_apart ha bare_nil).append
      (((Edits.of_apart hb bare_nil).append_right []).append_left g)

theorem harmless_links (h : Bare title) : Harmless (links title) := by
  have htargets := harmless_encodedSpaces.comp harmless_underscores
  intro t
  unfold links
  dsimp only
  split
  · exact htargets.untilStable t
  · exact ((harmless_linkToSelf h).comp htargets).untilStable t

theorem edits_slice {f : Text → Text} (hf : Harmless f) (t : Text) (h : start ≤ stop) :
    Edits t (t.take start ++ f (Text.slice t start stop) ++ t.drop stop) := by
  have hedit := ((hf (Text.slice t start stop)).append_left (t.take start)).append_right (t.drop stop)
  rwa [slice_append t h] at hedit

/-- List items are made in one stretch of the text, from a heading to the next one. -/
theorem harmless_bulletedLinks : Harmless bulletedLinks := by
  intro t
  unfold bulletedLinks
  split
  · exact .refl
  · rename_i m hm
    obtain ⟨u, w, hf⟩ := Regex.finds_of_findFrom? (Cursor.placed_ofText t) hm
    refine edits_slice harmless_bareExternalLink t ?_
    split
    · rename_i next hnext
      obtain ⟨u', w', hf'⟩ := Regex.finds_of_findFrom? hf.stop.placed hnext
      have hle := hf'.start.left_eq hf.stop.placed
      exact Nat.sub_le_sub_left (hle ▸ Nat.le_add_left _ _) _
    · exact Nat.sub_le _ _

end Wikitext.Fix
