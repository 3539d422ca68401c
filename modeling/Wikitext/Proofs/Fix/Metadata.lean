import Wikitext.Fix.Typography
import Wikitext.Proofs.Fix.ReferenceList
import Wikitext.Proofs.Fix.Unmasked
import Wikitext.Proofs.Stretch

/-!
# Sorting the metadata

Metadata is taken out of the text and written anew at its end, repeated
categories only once. As long as no placeholder stands in it, nothing is lost:
what is taken out is a stretch without corner brackets, with the white space
beside it (`edits_removeAll`).
-/

namespace Wikitext

open Mask Pattern Fix

-- -----------------------------------------------------------------------------------------
-- Removing stretches
-- -----------------------------------------------------------------------------------------

namespace Stretch

/-- The stretch lies in the text, and no placeholder overlaps it. -/
structure Free (t : Text) (s : Stretch) : Prop where
  ordered : s.start ≤ s.stop
  inside : s.stop ≤ t.length
  apart : Apart (Text.slice t s.start s.stop)

/-- The part of the text from `last` on, less what stands from `a` up to `b`. -/
theorem edits_remove (t : Text) (h : last ≤ a) (h' : a ≤ b) (hx : Apart (Text.slice t a b)) :
    Edits (t.drop last) (Text.slice t last a ++ t.drop b) := by
  have hedit := ((Edits.of_apart hx bare_nil).append_right (t.drop b)).append_left
    (Text.slice t last a)
  rwa [← drop_eq_slice t h', ← drop_eq_slice t h, List.nil_append] at hedit

theorem edits_removeOne (h : Free t s) (last : Nat) :
    Edits (t.drop last) ((removeOne t last s).1 ++ t.drop (removeOne t last s).2) := by
  rcases removeOne_cases ⟨h.ordered, h.inside⟩ last with ⟨-, hone⟩ | ⟨taken, hmodest, hle, hone⟩
  · rw [hone, List.nil_append]
  · obtain ⟨hbefore, hbehind⟩ := hmodest.beside.blank
    rw [hone]
    refine edits_remove t hle hmodest.within_taken.1 ?_
    rw [slice_cut t hmodest.before (h.ordered.trans hmodest.behind),
      slice_cut t h.ordered hmodest.behind]
    exact (h.apart.append_right (bare_of_blank hbehind)).append_left (bare_of_blank hbefore)

theorem edits_removeFrom {ss : List Stretch} (h : ∀ s ∈ ss, Free t s) (last : Nat) :
    Edits (t.drop last) (removeFrom t last ss) := by
  induction ss generalizing last with
  | nil => exact .refl
  | cons s ss ih =>
    rw [List.forall_mem_cons] at h
    exact (edits_removeOne h.1 last).trans ((ih h.2 _).append_left _)

theorem mem_insert {ss : List Stretch} (h : s ∈ insert s' ss) : s = s' ∨ s ∈ ss := by
  induction ss with
  | nil => exact .inl (by simpa [insert] using h)
  | cons s'' ss ih =>
    rw [insert] at h
    split at h
    · exact List.mem_cons.mp h
    · rcases List.mem_cons.mp h with rfl | h
      · exact .inr List.mem_cons_self
      · exact (ih h).imp_right (List.mem_cons_of_mem _)

theorem mem_sorted {ss : List Stretch} (h : s ∈ sorted ss) : s ∈ ss := by
  induction ss with
  | nil => exact h
  | cons s' ss ih =>
    rcases mem_insert h with rfl | h
    · exact List.mem_cons_self
    · exact List.mem_cons_of_mem _ (ih h)

theorem edits_removeAll {ss : List Stretch} (h : ∀ s ∈ ss, Free t s) :
    Edits t (removeAll t (sorted ss)) :=
  edits_removeFrom (fun s hs => h s (mem_sorted hs)) 0

/-- The matches of the pattern have some character foreign to placeholders. -/
def Shows (re : Regex) : Prop :=
  ∃ (fold : Bool) (p : Pattern), re = (p.folded fold).compile ∧ p.strays ('m' :: marks) = true

/-- A match as a stretch of the text. -/
theorem exists_ofMatch {p : Pattern} (hm : m ∈ p.compile.matches' t) : ∃ b u w,
    t = u ++ (w ++ m.after) ∧ Takes p m b w m.after ∧
      ofMatch t m = ⟨u.length, u.length + w.length⟩ := by
  obtain ⟨b, u, w, ht, htakes⟩ := takes_of_mem_matches hm
  have hlen : t.length = u.length + (w.length + m.after.length) := by
    rw [ht, List.length_append, List.length_append]
  refine ⟨b, u, w, ht, htakes, ?_⟩
  rw [ofMatch, htakes.startLeft, htakes.stopLeft, Stretch.mk.injEq]
  omega

theorem free_ofMatch {re : Regex} (hr : Shows re) (hm : m ∈ re.matches' t) (hb : Bare m.text) :
    Free t (ofMatch t m) := by
  obtain ⟨fold, p, rfl, hp⟩ := hr
  obtain ⟨b, u, w, ht, htakes, hstretch⟩ := exists_ofMatch hm
  have hslice : Text.slice t u.length (u.length + w.length) = w := by
    rw [Text.slice, ht, List.drop_left, Nat.add_sub_cancel_left, List.take_left]
  have hinside : u.length + w.length ≤ t.length := by
    rw [ht, List.length_append, List.length_append]
    omega
  rw [hstretch]
  refine ⟨Nat.le_add_right _ _, hinside, ?_⟩
  rw [hslice]
  exact ⟨htakes.text ▸ hb, strays_folded caseClosure_marks fold hp htakes.reads⟩

end Stretch

-- -----------------------------------------------------------------------------------------
-- Order
-- -----------------------------------------------------------------------------------------

theorem bare_join {sep : Text} (hs : Bare sep) {ts : List Text} (ht : ∀ t ∈ ts, Bare t) :
    Bare (Text.join sep ts) := by
  induction ts with
  | nil => exact bare_nil
  | cons t ts ih =>
    rw [List.forall_mem_cons] at ht
    cases ts with
    | nil => exact ht.1
    | cons => exact bare_append.mpr ⟨bare_append.mpr ⟨ht.1, hs⟩, ih ht.2⟩

namespace Metadata

/-- All that is moved to the end of a text. -/
def moved (v : Vocabulary) (t : Text) : List Match :=
  defaultSortVariants.matches' t ++ v.category.matches' t ++ stubs v t ++ interwikis v t

/-- A fold that adds the texts of some of the matches to its links. -/
theorem mem_foldl_links {ms : List Match} {acc : List Text × List Text}
    {step : List Text × List Text → Match → List Text × List Text}
    (hstep : ∀ acc m, (step acc m).2 = acc.2 ∨ (step acc m).2 = acc.2 ++ [m.text])
    (h : link ∈ (ms.foldl step acc).2) : link ∈ acc.2 ∨ ∃ m ∈ ms, link = m.text := by
  induction ms generalizing acc with
  | nil => exact .inl h
  | cons m ms ih =>
    rcases ih h with h | ⟨m', hm', he⟩
    · rcases hstep acc m with hs | hs
      · exact .inl (hs ▸ h)
      · rw [hs] at h
        rcases List.mem_append.mp h with h | h
        · exact .inl h
        · exact .inr ⟨m, List.mem_cons_self, List.mem_singleton.mp h⟩
    · exact .inr ⟨m', List.mem_cons_of_mem _ hm', he⟩

theorem mem_distinctCategories (h : link ∈ distinctCategories ms) : ∃ m ∈ ms, link = m.text := by
  refine (mem_foldl_links (fun acc m => ?_) h).resolve_left (by simp)
  dsimp only
  split
  · exact .inl rfl
  · exact .inr rfl

theorem shows_category (hv : Vocabulary.ofProfile p = .ok v) : Stretch.Shows v.category := by
  have hopen : (lit "[[").strays ('m' :: marks) = true := by decide
  refine ⟨true, _, (names_ofProfile hv).category, ?_⟩
  simp only [categoryLink, strays_append, hopen, Bool.true_or]

theorem free_moved (hv : Vocabulary.ofProfile p = .ok v) (hm : m ∈ moved v t) (hb : Bare m.text) :
    Stretch.Free t (Stretch.ofMatch t m) := by
  simp only [moved, List.mem_append] at hm
  rcases hm with ((hm | hm) | hm) | hm
  · exact Stretch.free_ofMatch ⟨true, _, rfl, by decide⟩ hm hb
  · exact Stretch.free_ofMatch (shows_category hv) hm hb
  · exact Stretch.free_ofMatch ⟨false, _, rfl, by decide⟩ (List.mem_filter.mp hm).1 hb
  · exact Stretch.free_ofMatch ⟨false, _, rfl, by decide⟩ (List.mem_filter.mp hm).1 hb

theorem harmless_excessBlankLines : Harmless excessBlankLines.apply :=
  .apply <| gentle_of_bare (by decide) fun _ _ => by decide

/-- What is put after the body has no corner brackets. -/
theorem keeps_join {sep body : Text} (hs : Bare sep) {ts : List Text} (ht : ∀ t ∈ ts, Bare t) :
    Keeps kind body (Text.join sep ((if body.isEmpty then [] else [body]) ++ ts)) := by
  have hall := bare_join hs ht
  cases body with
  | nil => exact keeps_append hall []
  | cons c body =>
    cases ts with
    | nil => exact .refl _
    | cons t ts =>
      have h : Keeps kind (c :: body) (c :: body ++ (sep ++ Text.join sep (t :: ts))) :=
        keeps_append (bare_append.mpr ⟨hs, hall⟩) _
      rwa [← List.append_assoc] at h

/-- What is written at the end of the text was moved there. -/
theorem text_of_block {v : Vocabulary} {links : List Text} {link : Text} (hl : links ∈ [
      ((defaultSortVariants.matches' t).take 1).map (·.text) ++
        distinctCategories (v.category.matches' t),
      (stubs v t).map (·.text), (interwikis v t).map (·.text)]) (h : link ∈ links) :
    ∃ m ∈ moved v t, link = m.text := by
  simp only [List.mem_cons, List.not_mem_nil, or_false] at hl
  simp only [moved, List.mem_append]
  rcases hl with rfl | rfl | rfl
  · rcases List.mem_append.mp h with h | h
    · obtain ⟨m, hm, rfl⟩ := List.mem_map.mp h
      exact ⟨m, .inl (.inl (.inl (List.mem_of_mem_take hm))), rfl⟩
    · obtain ⟨m, hm, rfl⟩ := mem_distinctCategories h
      exact ⟨m, .inl (.inl (.inr hm)), rfl⟩
  · obtain ⟨m, hm, rfl⟩ := List.mem_map.mp h
    exact ⟨m, .inl (.inr hm), rfl⟩
  · obtain ⟨m, hm, rfl⟩ := List.mem_map.mp h
    exact ⟨m, .inr hm, rfl⟩

/-- As long as no placeholder stands in the metadata, all of them stay in their order. -/
theorem keeps_sort (hv : Vocabulary.ofProfile p = .ok v) (h : ∀ m ∈ moved v t, Bare m.text) :
    Keeps kind t (sort v title t) := by
  unfold sort
  dsimp only
  split
  · exact .refl t
  · split
    · exact .refl t
    · split
      · exact .refl t
      · have hfree : ∀ s ∈ (moved v t).map (Stretch.ofMatch t), Stretch.Free t s := by
          intro s hs
          obtain ⟨m, hm, rfl⟩ := List.mem_map.mp hs
          exact free_moved hv hm (h m hm)
        have hbody := ((Stretch.edits_removeAll hfree).trans (harmless_excessBlankLines _)).trans
          (harmless_trimEnd _)
        refine (Edits.keeps hbody).trans (keeps_join (by decide) fun block hblock => ?_)
        obtain ⟨links, hlinks, rfl⟩ := List.mem_map.mp hblock
        refine bare_join (by decide) fun link hlink => ?_
        obtain ⟨m, hm, rfl⟩ := text_of_block (List.mem_filter.mp hlinks).1 hlink
        exact h m hm

theorem harmless_whiteSpace : Harmless whiteSpace := by
  have hgap : Harmless trailingGap.apply :=
    .apply <| gentle_of_bare (by decide) fun _ h => h 1
  have hlines : Harmless blankLines.apply :=
    .apply <| gentle_of_bare (by decide) fun _ _ => by decide
  exact fun t => ((hgap t).trans (hlines _)).trans (harmless_trim _)

end Metadata

end Wikitext
