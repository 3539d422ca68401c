import Wikitext.Fix.BoldTitle
import Wikitext.Metadata
import Wikitext.Proofs.Fix.Names
import Wikitext.Proofs.Fix.Text
import Wikitext.Proofs.Text.Accents

/-!
# Fixes of an unmasked text

Between the two times that a text is masked, its title is emboldened and its
default sort key put right. Neither writes a corner bracket if the text and the
title have none, so the text can be masked again.
-/

namespace Wikitext

open Mask Pattern Fix

/-- What is written for the pieces of a text without corner brackets. -/
theorem bare_of_pieces {p : Pattern} {g : Piece → Text} (hc : Cuts p b t ps) (ht : Bare t)
    (hkept : ∀ u, Bare u → Bare (g (.kept u)))
    (hhit : ∀ {m b w r}, Takes p m b w r → Bare w → Bare (g (.hit m))) : Bare (ps.flatMap g) := by
  induction hc with
  | nil => exact bare_nil
  | kept _ ih =>
    rw [bare_append] at ht
    exact bare_append.mpr ⟨hkept _ ht.1, ih ht.2⟩
  | hit hm _ ih =>
    rw [bare_append] at ht
    exact bare_append.mpr ⟨hhit hm ht.1, ih ht.2⟩

theorem bare_replaceAll {p : Pattern} {f : Match → Text} (ht : Bare t)
    (hf : ∀ {m b w r}, Takes p m b w r → Bare w → Bare (f m)) :
    Bare (p.compile.replaceAll f t) :=
  bare_of_pieces (Regex.cuts_pieces p t) ht (fun _ hu => hu) hf

theorem bare_take (ht : Bare t) (n : Nat) : Bare (t.take n) := ht.subset (List.take_subset n t)

theorem bare_drop (ht : Bare t) (n : Nat) : Bare (t.drop n) := ht.subset (List.drop_subset n t)

/-- What a match has and what follows it, in a text without corner brackets. -/
theorem bare_of_takes {p : Pattern} (ht : Bare t) (h : t = u ++ (w ++ m.after))
    (hm : Takes p m b w m.after) : (∀ i, Bare (m.group i)) ∧ Bare m.text ∧ Bare m.after := by
  rw [h, bare_append, bare_append] at ht
  exact ⟨hm.group_bare ht.2.1, hm.text ▸ ht.2.1, ht.2.2⟩

theorem bare_of_find? {re : Regex} (hr : ∃ p : Pattern, re = p.compile) (ht : Bare t)
    (h : re.find? t = some m) : (∀ i, Bare (m.group i)) ∧ Bare m.text ∧ Bare m.after := by
  obtain ⟨p, rfl⟩ := hr
  obtain ⟨_, _, hs⟩ := Regex.splits_of_find? h
  exact bare_of_takes ht hs.text hs.takes

theorem bare_of_mem_matches {re : Regex} (hr : ∃ p : Pattern, re = p.compile) (ht : Bare t)
    (h : m ∈ re.matches' t) : (∀ i, Bare (m.group i)) ∧ Bare m.text ∧ Bare m.after := by
  obtain ⟨p, rfl⟩ := hr
  obtain ⟨_, _, _, hs, hm⟩ := takes_of_mem_matches h
  exact bare_of_takes ht hs hm

theorem bare_trimEnd (ht : Bare t) : Bare (Text.trimEnd t) := by
  obtain ⟨x, hx, -⟩ := Text.trimEnd_append t
  rw [hx] at ht
  exact (bare_append.mp ht).1

-- -----------------------------------------------------------------------------------------
-- The title in bold
-- -----------------------------------------------------------------------------------------

namespace Fix

theorem bare_bold (ht : Bare t) : Bare (bold t) :=
  bare_append.mpr ⟨bare_append.mpr ⟨by decide, ht⟩, by decide⟩

theorem bare_boldMention? (hl : Bare line) (h : boldMention? title line = some line') :
    Bare line' := by
  obtain ⟨m, hm, rfl⟩ := Option.map_eq_some_iff.mp h
  have hr : ∃ p : Pattern, mention title = p.compile := by
    unfold mention
    exact ⟨_, rfl⟩
  obtain ⟨-, htext, hafter⟩ := bare_of_mem_matches hr hl (List.mem_of_find?_eq_some hm)
  exact bare_append.mpr ⟨bare_append.mpr ⟨bare_take hl _, bare_bold htext⟩, hafter⟩

theorem bare_boldInLines? {lines : List Text} (hl : ∀ line ∈ lines, Bare line)
    (h : boldInLines? title lines = some lines') : ∀ line ∈ lines', Bare line := by
  induction lines generalizing lines' with
  | nil => cases h
  | cons line lines ih =>
    rw [List.forall_mem_cons] at hl
    rw [boldInLines?] at h
    split at h
    · obtain ⟨line', hline, rfl⟩ := Option.map_eq_some_iff.mp h
      exact List.forall_mem_cons.mpr ⟨bare_boldMention? hl.1 hline, hl.2⟩
    · obtain ⟨lines', hlines, rfl⟩ := Option.map_eq_some_iff.mp h
      exact List.forall_mem_cons.mpr ⟨hl.1, ih hl.2 hlines⟩

theorem flatten_linesOf (t : Text) : (linesOf t).flatten = t := by
  induction t with
  | nil => rfl
  | cons c cs ih =>
    rw [linesOf]
    split
    · simp [ih]
    · split
      · rename_i h
        rw [h] at ih
        simp [← ih]
      · rename_i h
        rw [h] at ih
        simp [← ih]

theorem bare_flatten {lines : List Text} : Bare lines.flatten ↔ ∀ line ∈ lines, Bare line := by
  induction lines with
  | nil => simp
  | cons line lines ih => rw [List.flatten_cons, bare_append, ih, List.forall_mem_cons]

/-- The title is emboldened in the first `n` characters of the text. -/
theorem bare_boldLead (ht : Bare t) (n : Nat) :
    Bare (if Text.includes (t.take n) boldMark then t
      else match (selfLink title).find? (t.take n) with
        | some m =>
          let shown := ((m.group? 1).orElse fun _ => m.group? 2).getD []
          (t.take n).take (m.offset (t.take n).length) ++ bold shown ++ m.after ++ t.drop n
        | none =>
          match boldInLines? title (linesOf (t.take n)) with
          | some lines => lines.flatten ++ t.drop n
          | none => t) := by
  have hlead := bare_take ht n
  have hbody := bare_drop ht n
  split
  · exact ht
  · split
    · rename_i m hm
      have hr : ∃ p : Pattern, selfLink title = p.compile := by
        unfold selfLink
        exact ⟨_, rfl⟩
      obtain ⟨hgroup, -, hafter⟩ := bare_of_find? hr hlead hm
      have hshown : Bare (((m.group? 1).orElse fun _ => m.group? 2).getD []) := by
        cases h : m.group? 1 with
        | none => exact hgroup 2
        | some g =>
          have h₁ := hgroup 1
          rwa [Match.group, h] at h₁
      exact bare_append.mpr ⟨bare_append.mpr ⟨bare_append.mpr ⟨bare_take hlead _,
        bare_bold hshown⟩, hafter⟩, hbody⟩
    · split
      · rename_i lines hlines
        have hall : ∀ line ∈ linesOf (t.take n), Bare line := by
          rw [← bare_flatten, flatten_linesOf]
          exact hlead
        exact bare_append.mpr ⟨bare_flatten.mpr (bare_boldInLines? hall hlines), hbody⟩
      · exact ht

theorem bare_boldTitle (ht : Bare t) : Bare (boldTitle title t) := by
  unfold boldTitle
  dsimp only
  split
  · exact ht
  · exact bare_boldLead ht _

end Fix

-- -----------------------------------------------------------------------------------------
-- Sort keys
-- -----------------------------------------------------------------------------------------

namespace SortKey

theorem bases_of_table : ∀ e ∈ Chars.baseTable.toList, e.2 ≠ 0x230A ∧ e.2 ≠ 0x230B := by
  decide +kernel

theorem bare_baseLetters (hc : c ∉ corners) : Bare (Chars.baseLetters c) := by
  have hself : Bare [c] := by simpa using hc
  unfold Chars.baseLetters
  dsimp only
  split
  · exact hself
  · split
    · rename_i h
      simp only [Bool.and_eq_true, decide_eq_true_eq] at h
      unfold Chars.hangulJamo
      have h₁ : Char.ofNat (0x1100 + (c.toNat - 0xAC00) / 588) ∉ corners :=
        ofNat_not_mem_corners (by omega)
      have h₂ : Char.ofNat (0x1161 + (c.toNat - 0xAC00) % 588 / 28) ∉ corners :=
        ofNat_not_mem_corners (by omega)
      have h₃ : Char.ofNat (0x11A7 + (c.toNat - 0xAC00) % 28) ∉ corners :=
        ofNat_not_mem_corners (by omega)
      dsimp only
      split <;> simp [h₁, h₂, h₃]
    · split
      · rename_i h
        have hentry := bases_of_table _ (Chars.mem_of_lookupBase (by omega) h)
        simpa using ofNat_not_mem_corners hentry
      · split
        · exact bare_nil
        · exact hself

theorem bare_plainLetters (hc : c ∉ corners) : Bare (plainLetters c) := by
  unfold plainLetters
  split
  all_goals first
    | decide
    | simpa using hc

theorem bare_flatMap {f : Char → Text} (hf : ∀ c, c ∉ corners → Bare (f c)) (ht : Bare t) :
    Bare (t.flatMap f) := by
  intro d hd
  obtain ⟨c, hc, hd⟩ := List.mem_flatMap.mp hd
  exact hf c (ht c hc) d hd

theorem bare_withoutDiacritics (ht : Bare t) : Bare (withoutDiacritics t) :=
  bare_flatMap (fun _ => bare_plainLetters) (bare_flatMap (fun _ => bare_baseLetters) ht)

theorem splitFirst?_subset (h : Text.splitFirst? c t = some (a, b)) : a ⊆ t ∧ b ⊆ t := by
  induction t generalizing a b with
  | nil => cases h
  | cons x xs ih =>
    rw [Text.splitFirst?] at h
    split at h
    · cases h
      exact ⟨List.nil_subset _, List.subset_cons_self _ _⟩
    · obtain ⟨⟨a', b'⟩, hs, he⟩ := Option.map_eq_some_iff.mp h
      cases he
      obtain ⟨ha, hb⟩ := ih hs
      exact ⟨List.cons_subset_cons _ ha, List.subset_cons_of_subset _ hb⟩

theorem splitLast?_subset (h : Text.splitLast? c t = some (a, b)) : a ⊆ t ∧ b ⊆ t := by
  obtain ⟨⟨b', a'⟩, hs, he⟩ := Option.map_eq_some_iff.mp h
  cases he
  obtain ⟨hb, ha⟩ := splitFirst?_subset hs
  exact ⟨by simpa using ha, by simpa using hb⟩

theorem bare_ofPerson (ht : Bare t) : Bare (ofPerson t) := by
  have hname : Bare (withoutDiacritics (Text.trim (disambiguator.replaceFirst (fun _ => []) t))) := by
    refine bare_withoutDiacritics (bare_trim ?_)
    unfold Regex.replaceFirst
    split
    · exact ht
    · rename_i m hm
      simp only [bare_append, bare_take ht, bare_nil, (bare_of_find? ⟨_, rfl⟩ ht hm).2.2, and_self]
  unfold ofPerson
  generalize withoutDiacritics _ = name at hname ⊢
  dsimp only
  have hkey : ∀ {plain given family}, Bare plain →
      Text.splitLast? ' ' plain = some (given, family) →
      Bare (family ++ ", ".toList ++ Text.trim given) := by
    intro plain given family hp hs
    obtain ⟨hg, hf⟩ := splitLast?_subset hs
    exact bare_append.mpr ⟨bare_append.mpr ⟨hp.subset hf, by decide⟩, bare_trim (hp.subset hg)⟩
  split
  · exact hname
  · cases hsuffix : generation.find? name with
    | none =>
      dsimp only
      split
      · rename_i hs
        exact hkey hname hs
      · exact hname
    | some m =>
      obtain ⟨hgroup, -, -⟩ := bare_of_find? ⟨_, rfl⟩ hname hsuffix
      refine bare_append.mpr ⟨bare_append.mpr ⟨?_, by decide⟩, hgroup 1⟩
      have hplain := bare_take hname (m.offset name.length)
      split
      · rename_i hs
        exact hkey hplain hs
      · exact hplain

end SortKey

-- -----------------------------------------------------------------------------------------
-- The default sort key
-- -----------------------------------------------------------------------------------------

theorem Profile.bare_pageName (p : Profile) (h : Bare title) : Bare (p.pageName title) := by
  unfold pageName
  split
  · cases hs : Text.splitFirst? ':' title with
    | none => exact h
    | some r => exact (h.subset (SortKey.splitFirst?_subset hs).2).subset (List.dropWhile_subset _)
  · exact h

namespace Metadata

theorem bare_commonKey? {keys : List (Option Text)} (hk : ∀ key, some key ∈ keys → Bare key)
    (h : commonKey? keys = some key) : Bare key := by
  unfold commonKey? at h
  split at h
  · dsimp only at h
    split at h
    · cases h
      exact bare_trimEnd (hk _ List.mem_cons_self)
    · cases h
  · cases h

theorem bare_sortKeyTemplate (h : Bare key) : Bare (sortKeyTemplate key) :=
  bare_append.mpr ⟨bare_append.mpr ⟨by decide, h⟩, by decide⟩

section
variable {p : Profile} {v : Vocabulary} (hv : Vocabulary.ofProfile p = .ok v)
include hv

theorem bare_keyToAdd? (htitle : Bare title) (ht : Bare t)
    (h : keyToAdd? v title restricted t = some key) : Bare key := by
  have hcategory := (names_ofProfile hv).category
  have hkeys : ∀ key, some key ∈ (v.category.matches' t).map Category.keyOf? → Bare key := by
    intro key hkey
    obtain ⟨m, hm, hk⟩ := List.mem_map.mp hkey
    obtain ⟨g, hg, rfl⟩ := Option.map_eq_some_iff.mp hk
    have hgroup := (bare_of_mem_matches ⟨_, hcategory⟩ ht hm).1 2
    rw [Match.group, hg] at hgroup
    exact bare_drop hgroup 1
  have hname := v.profile.bare_pageName htitle
  unfold keyToAdd? at h
  dsimp only at h
  split at h
  · cases h
  · split at h
    · rename_i hcommon
      cases h
      exact bare_commonKey? hkeys hcommon
    · split at h
      · cases h
      · generalize hk : (if v.biography.isMatch t then SortKey.ofPerson (v.profile.pageName title)
          else SortKey.withoutDiacritics (v.profile.pageName title)) = k at h
        have hkey : Bare k := by
          rw [← hk]
          split
          · exact SortKey.bare_ofPerson hname
          · exact SortKey.bare_withoutDiacritics hname
        split at h
        · exact Option.some.inj h ▸ hkey
        · cases h

theorem bare_dropKeys (ht : Bare t) : Bare (dropKeys v key t) := by
  unfold dropKeys
  rw [(names_ofProfile hv).category]
  refine bare_replaceAll ht fun {m b w r} hm hw => ?_
  have htext : Bare m.text := hm.text ▸ hw
  split
  · exact htext
  · split
    · exact htext
    · exact bare_append.mpr ⟨bare_trimEnd (bare_take htext _), by decide⟩

theorem bare_fixDefaultSort (htitle : Bare title) (ht : Bare t) :
    Bare (fixDefaultSort v title restricted t).text := by
  have hstart : Bare (defaultSortVariants.replaceAll (fun m => sortKeyTemplate (m.group 1)) t) :=
    bare_replaceAll ht fun hm hw => bare_sortKeyTemplate (hm.group_bare hw 1)
  unfold fixDefaultSort
  generalize defaultSortVariants.replaceAll _ t = u at hstart ⊢
  dsimp only
  split
  · split
    · rename_i key hkey
      have hkey := bare_keyToAdd? hv htitle hstart hkey
      refine bare_dropKeys hv (bare_append.mpr ⟨bare_append.mpr ⟨bare_append.mpr ⟨?_, ?_⟩, ?_⟩, ?_⟩)
      · exact bare_take hstart _
      · exact bare_sortKeyTemplate hkey
      · decide
      · exact bare_drop hstart _
    · exact hstart
  · exact bare_dropKeys hv hstart
  · exact hstart

end

end Metadata

end Wikitext
