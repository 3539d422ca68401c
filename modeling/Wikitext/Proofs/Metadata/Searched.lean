import Wikitext.Proofs.Fix.Shrinking
import Wikitext.Proofs.Image.Link
import Wikitext.Proofs.Metadata.Kinds
import Wikitext.Proofs.Stretch

/-!
# Taking out what a search has found

The matches of one pattern do not overlap, and image links and metadata of all kinds begin with a
bracket. So none of them is passed over because of white space that goes with another one. Taking out
the matches of one pattern leaves just what can be seen outside of them (`visible_removeAll_found`).
Metadata of different kinds can overlap; where it does not, the same holds of all that is moved
(`visible_removeAll_moved`).
-/

namespace Wikitext

-- -----------------------------------------------------------------------------------------
-- The matches of one pattern
-- -----------------------------------------------------------------------------------------

/-- A match begins where the one before it ends, or behind that. -/
theorem Cuts.pairwise {p : Pattern} (h : Cuts p b t ps) :
    (hits ps).Pairwise fun m m' => m'.start.left ≤ m.stop.left := by
  induction h with
  | nil => exact .nil
  | kept _ ih => exact ih
  | @hit m b w r ps hm hrest ih =>
    refine .cons (fun m' hm' => ?_) ih
    obtain ⟨_, u, x, hr, htakes⟩ := hrest.takes_of_hit (mem_hits.mp hm')
    rw [htakes.startLeft, hm.stopLeft, hr, List.length_append, List.length_append]
    omega

namespace Stretch

open Fix (Begins begins_lit)

theorem within_ofMatch {p : Pattern} (hm : m ∈ p.compile.matches' t) : Within t (ofMatch t m) := by
  obtain ⟨_, u, w, ht, -, hs⟩ := exists_ofMatch hm
  have hlen : t.length = u.length + (w.length + m.after.length) := by
    rw [ht, List.length_append, List.length_append]
  rw [hs, Within]
  dsimp only
  omega

theorem not_beginsBlank_ofMatch {p : Pattern} (hp : Begins p x)
    (hx : x.head?.any (fun c => !Chars.isBlank c) = true) (hm : m ∈ p.compile.matches' t) :
    ¬ BeginsBlank t (ofMatch t m) := by
  obtain ⟨b, u, w, ht, htakes, hs⟩ := exists_ofMatch hm
  obtain ⟨y, rfl⟩ := hp b w _ _ htakes.reads
  rw [BeginsBlank, slice_stretch ht hs]
  cases x with
  | nil => cases hx
  | cons c x => simpa using hx

theorem pairwise_matches (p : Pattern) (t : Text) :
    ((p.compile.matches' t).map (ofMatch t)).Pairwise fun s s' => s.stop ≤ s'.start := by
  rw [List.pairwise_map, matches_eq_hits]
  exact (Regex.cuts_pieces p t).pairwise.imp fun h => Nat.sub_le_sub_left h _

/-- Taking out what a search has found leaves all else that can be seen. -/
theorem visible_removeAll_found {p : Pattern} {ms : List Match} (hp : Begins p x)
    (hx : x.head?.any (fun c => !Chars.isBlank c) = true) (hms : ms.Sublist (p.compile.matches' t)) :
    Text.visible (removeAll t (ms.map (ofMatch t))) =
      Text.visible (outside t (ms.map (ofMatch t))) := by
  have hin : ∀ s ∈ ms.map (ofMatch t), Within t s :=
    List.forall_mem_map.mpr fun m hm => within_ofMatch (hms.subset hm)
  have hapart := (pairwise_matches p t).sublist (hms.map (ofMatch t))
  have hsorted : (ms.map (ofMatch t)).Pairwise fun s s' => s.start ≤ s'.start :=
    hapart.imp_of_mem fun hs _ hle => (hin _ hs).1.trans hle
  exact visible_removeAll hin hsorted (hapart.imp disjoint_of_le)
    (List.forall_mem_map.mpr fun m hm => not_beginsBlank_ofMatch hp hx (hms.subset hm))

end Stretch

-- -----------------------------------------------------------------------------------------
-- Links and metadata
-- -----------------------------------------------------------------------------------------

open Pattern Fix

theorem Fix.begins_caseless_lit {s : String} (h : ∀ c ∈ s.toList, Chars.Caseless c) :
    Begins (lit s).caseless s.toList := by
  rw [lit, caseless_ofText h]
  exact begins_lit s

theorem Category.begins_linkPattern (ns : Text) : Begins (linkPattern ns) "[[".toList :=
  linkPattern_eq ns ▸ (((((((((begins_lit "[[").append _).append _).append _).append _).append _).append
    _).append _).append _).append _

theorem Category.visible_remove (hv : Vocabulary.ofProfile p = .ok v) (name t : Text) :
    Text.visible (remove v name t) = Text.visible (Stretch.outside t (stretches v t name)) := by
  have hms : ((v.category.matches' t).filter fun m => nameOf m == normalName name).Sublist
      ((linkPattern p.categoryNamespace).compile.matches' t) := by
    rw [← category_eq hv]
    exact List.filter_sublist
  exact Stretch.visible_removeAll_found (begins_linkPattern _) (by decide) hms

/-- Links to an image are taken out before parameters with it are emptied. -/
theorem Image.visible_removeAll_links (v : Vocabulary) (name t : Text) :
    Text.visible (Stretch.removeAll t (((linkTo v name).matches' t).map (Stretch.ofMatch t))) =
      Text.visible (Stretch.outside t (((linkTo v name).matches' t).map (Stretch.ofMatch t))) := by
  have hbegins : Begins (link v name) "[[".toList :=
    (((((((((begins_lit "[[").append _).append _).append _).append _).append _).append _).append
      _).append _).append _
  exact Stretch.visible_removeAll_found hbegins (by decide) (.refl _)

namespace Metadata

theorem begins_keyPattern : Begins keyPattern "\x7b\x7b".toList := by
  simp only [keyPattern, caseless_append]
  exact ((((((((begins_caseless_lit (by decide)).append _).append _).append _).append _).append
    _).append _).append _).append _

/-- All that is moved begins with a bracket. -/
theorem exists_search (hv : Vocabulary.ofProfile p = .ok v) (hm : m ∈ moved v t) :
    ∃ (q : Pattern) (x : Text), Begins q x ∧ x.head?.any (fun c => !Chars.isBlank c) = true ∧
      m ∈ q.compile.matches' t := by
  simp only [moved, List.mem_append] at hm
  rcases hm with ((hm | hm) | hm) | hm
  · exact ⟨keyPattern, _, begins_keyPattern, by decide, hm⟩
  · exact ⟨_, _, Category.begins_linkPattern _, by decide, Category.category_eq hv ▸ hm⟩
  · exact ⟨templatePattern, _, ((begins_lit "\x7b\x7b").append _).append _, by decide,
      (List.mem_filter.mp hm).1⟩
  · exact ⟨interwikiPattern, _, ((((((begins_lit "[[").append _).append _).append _).append _).append
      _).append _, by decide, (List.mem_filter.mp hm).1⟩

/-- Where no piece of metadata overlaps another one, taking them out leaves all else that can be
seen. -/
theorem visible_removeAll_moved (hv : Vocabulary.ofProfile p = .ok v)
    (hdisjoint : ((moved v t).map (Stretch.ofMatch t)).Pairwise Stretch.Disjoint) :
    Text.visible (Stretch.removeAll t (Stretch.sorted ((moved v t).map (Stretch.ofMatch t)))) =
      Text.visible (Stretch.outside t ((moved v t).map (Stretch.ofMatch t))) := by
  have hperm := Stretch.perm_sorted ((moved v t).map (Stretch.ofMatch t))
  have hsearch : ∀ s ∈ Stretch.sorted ((moved v t).map (Stretch.ofMatch t)),
      Stretch.Within t s ∧ ¬ Stretch.BeginsBlank t s := by
    intro s hs
    obtain ⟨m, hm, rfl⟩ := List.mem_map.mp (hperm.mem_iff.mp hs)
    obtain ⟨q, x, hq, hx, hm⟩ := exists_search hv hm
    exact ⟨Stretch.within_ofMatch hm, Stretch.not_beginsBlank_ofMatch hq hx hm⟩
  rw [Stretch.visible_removeAll (fun s hs => (hsearch s hs).1) (Stretch.pairwise_sorted _)
    (hdisjoint.perm hperm.symm fun h => symm h) fun s hs => (hsearch s hs).2]
  exact congrArg Text.visible (Stretch.outside_congr fun s => hperm.mem_iff)

end Metadata

end Wikitext
