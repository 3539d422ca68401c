import Wikitext.Proofs.Mask.Impartial
import Wikitext.Proofs.Mask.Visible

/-!
# What one mask hides and another one too

Of every character of a text, a mask shows it or hides it (`shades`). A pass of hiding shows nothing
that was hidden before (`covered_hide`), and passes over texts that are alike hide the same characters
(`AlikeHidden.shades_eq`).

The broad mask looks for references and templates before it looks for images and web addresses, and
hides all that the plain mask hides if it finds none of them (`covered_hideMore`). A template that
begins in a caption and ends behind it hides the end of the caption, and the file is seen then
(`not_covered_hideMore`).
-/

namespace Wikitext.Mask

open Pattern

-- -----------------------------------------------------------------------------------------
-- Characters that are hidden
-- -----------------------------------------------------------------------------------------

/-- For each character that the parts stand for, whether it is hidden. -/
def shades (kind : Kind) (spans : Array Text) (ps : List Part) : List Bool := ps.flatMap fun
  | .char _ => [false]
  | .placeholder i => List.replicate ((region? kind spans i).getD []).length true

/-- Each character that is hidden in the first way is hidden in the second way. -/
abbrev Covered (fs gs : List Bool) : Prop := List.Forall₂ (fun f g => f = true → g = true) fs gs

theorem covered_refl (fs : List Bool) : Covered fs fs := List.forall₂_same.mpr fun _ _ => id

theorem Covered.trans (h : Covered fs gs) (h' : Covered gs hs) : Covered fs hs := by
  induction h generalizing hs with
  | nil => exact h'
  | cons hf _ ih =>
    cases h' with
    | cons hg h' => exact .cons (hg ∘ hf) (ih h')

theorem covered_replicate (h : fs.length = n) : Covered fs (List.replicate n true) := by
  induction fs generalizing n with
  | nil =>
    subst h
    exact .nil
  | cons f fs ih =>
    subst h
    exact .cons (fun _ => rfl) (ih rfl)

variable {kind : Kind} {spans : Array Text}

theorem shades_append (ps qs : List Part) :
    shades kind spans (ps ++ qs) = shades kind spans ps ++ shades kind spans qs := List.flatMap_append

theorem shades_placeholder (i : Nat) (ps : List Part) : shades kind spans (.placeholder i :: ps) =
    List.replicate ((region? kind spans i).getD []).length true ++ shades kind spans ps := rfl

section
variable (h : Expands kind spans ps is u) (hn : is.Nodup) (hlt : ∀ i ∈ is, i < spans.size)
include h hn hlt

/-- Each character of the text is shown or hidden. -/
theorem length_shades : (shades kind spans ps).length = u.length := by
  induction ps generalizing is u with
  | nil =>
    cases h
    rfl
  | cons p ps ih =>
    cases p with
    | char c =>
      cases h with
      | char h => exact congrArg (· + 1) (ih h hn hlt)
    | placeholder i =>
      obtain ⟨is, js, u, v, rfl, rfl, hi, h⟩ := h.cons_inv
      rw [List.forall_mem_append] at hlt
      rw [List.nodup_append] at hn
      rw [shades_placeholder, hi.region?_eq hn.1 hlt.1, List.length_append, List.length_replicate,
        ih h hn.2.1 hlt.2, Option.getD_some, List.length_append]

/-- Nothing changes where no new stretch is named. -/
theorem shades_push (w : Text) : shades kind (spans.push w) ps = shades kind spans ps := by
  have hpush : ∀ {is : List Nat}, (∀ i ∈ is, i < spans.size) → ∀ i ∈ is, i < (spans.push w).size :=
    fun hlt i hi => by
      rw [Array.size_push]
      exact Nat.lt_succ_of_lt (hlt i hi)
  induction ps generalizing is u with
  | nil => rfl
  | cons p ps ih =>
    cases p with
    | char c =>
      cases h with
      | char h => exact congrArg (false :: ·) (ih h hn hlt)
    | placeholder i =>
      obtain ⟨is, js, u, v, rfl, rfl, hi, h⟩ := h.cons_inv
      rw [List.forall_mem_append] at hlt
      rw [List.nodup_append] at hn
      rw [shades_placeholder, shades_placeholder, hi.region?_eq hn.1 hlt.1,
        (hi.push w).region?_eq hn.1 (hpush hlt.1), ih h hn.2.1 hlt.2]

end

-- -----------------------------------------------------------------------------------------
-- Further passes
-- -----------------------------------------------------------------------------------------

/-- A stretch that is stored was shown in parts, or hidden. -/
theorem covered_store (h : Accounts kind spans (ps ++ (parts kind w ++ qs)) t) :
    Covered (shades kind spans (ps ++ (parts kind w ++ qs)))
      (shades kind (spans.push w) (ps ++ .placeholder spans.size :: qs)) := by
  obtain ⟨is, h, hp⟩ := h
  have hlt : ∀ i ∈ is, i < spans.size := fun i hi => List.mem_range.mp (hp.mem_iff.mp hi)
  have hn : is.Nodup := hp.nodup_iff.mpr List.nodup_range
  obtain ⟨is₁, _, u₁, _, rfl, rfl, h₁, h⟩ := h.append_inv
  obtain ⟨is₂, is₃, u₂, u₃, rfl, rfl, h₂, h₃⟩ := h.append_inv
  rw [List.forall_mem_append, List.forall_mem_append] at hlt
  obtain ⟨hlt₁, hlt₂, hlt₃⟩ := hlt
  obtain ⟨hn₁, hn, -⟩ := List.nodup_append.mp hn
  obtain ⟨hn₂, hn₃, -⟩ := List.nodup_append.mp hn
  have hnew : Expands kind (spans.push w) [.placeholder spans.size] (spans.size :: is₂) u₂ := by
    have hs : (spans.push w)[spans.size]? = some w := by simp
    simpa using Expands.placeholder hs (h₂.push w) .nil
  have hregion : region? kind (spans.push w) spans.size = some u₂ := by
    refine hnew.region?_eq (List.nodup_cons.mpr ⟨fun hi => Nat.lt_irrefl _ (hlt₂ _ hi), hn₂⟩) ?_
    rw [Array.size_push, List.forall_mem_cons]
    exact ⟨Nat.lt_succ_self _, fun i hi => Nat.lt_succ_of_lt (hlt₂ i hi)⟩
  rw [shades_append, shades_append, shades_append, shades_placeholder, hregion,
    shades_push h₁ hn₁ hlt₁, shades_push h₃ hn₃ hlt₃]
  exact List.rel_append (covered_refl _)
    (List.rel_append (covered_replicate (length_shades h₂ hn₂ hlt₂)) (covered_refl _))

/-- For each character of the text that was masked, whether it is hidden. -/
def Hidden.shades (kind : Kind) (s : Hidden) : List Bool := Mask.shades kind s.spans (parts kind s.text)

theorem Hidden.Masks.length_shades {s : Hidden} (h : s.Masks kind t) : (s.shades kind).length = t.length := by
  obtain ⟨is, h, hp⟩ := h
  exact Mask.length_shades h (hp.nodup_iff.mpr List.nodup_range)
    fun i hi => List.mem_range.mp (hp.mem_iff.mp hi)

theorem covered_hide {s : Hidden} (h : s.Masks kind t) (hr : Clear r) :
    Covered (s.shades kind) ((s.hide kind r).shades kind) := by
  refine (Hidden.hide_induction (P := fun spans ps => Accounts kind spans ps t ∧
    Covered (s.shades kind) (shades kind spans ps)) hr ?_ ⟨h, covered_refl _⟩).2
  rintro spans w ps qs ⟨haccounts, hcovered⟩
  exact ⟨haccounts.store, hcovered.trans (covered_store haccounts)⟩

theorem covered_hideTemplates {s : Hidden} (h : s.Masks kind t) :
    Covered (s.shades kind) ((s.hideTemplates kind).shades kind) := by
  fun_induction Hidden.hideTemplates kind s with
  | case1 s next _ ih =>
    exact (covered_hide h clear_innermostTemplate).trans (ih (h.hide clear_innermostTemplate))
  | case2 s next _ => exact covered_hide h clear_innermostTemplate

theorem hide_of_not_isMatch {s : Hidden} (h : r.isMatch s.text = false) : s.hide kind r = s := by
  rw [Hidden.hide_eq, Regex.pieces_of_not_isMatch h]
  rfl

theorem hideTemplates_of_not_isMatch (kind : Kind) {s : Hidden}
    (h : Region.innermostTemplate.isMatch s.text = false) : s.hideTemplates kind = s := by
  rw [Hidden.hideTemplates, hide_of_not_isMatch h, dif_neg (Nat.lt_irrefl _)]

-- -----------------------------------------------------------------------------------------
-- Two masks
-- -----------------------------------------------------------------------------------------

variable {k k' : Kind}

/-- Restoring looks at the parts of the stretches and not at the kind of their placeholders. -/
theorem expand_eq_of_parts {spans' : Array Text}
    (h : ∀ i : Nat, spans[i]?.map (parts k) = spans'[i]?.map (parts k')) (ps : List Part)
    (missing : List Nat) : expand k spans ps missing = expand k' spans' ps missing := by
  fun_induction expand k spans ps missing with
  | case1 missing => rw [expand]
  | case2 c rest missing ih => rw [expand, ih]
  | case3 i rest missing hs =>
    have hi := h i
    rw [hs, Option.map_none, eq_comm, Option.map_eq_none_iff] at hi
    rw [expand]
    split
    · rfl
    · simp_all
  | case4 i rest missing span hs hm ih =>
    have hi := h i
    rw [hs, Option.map_some, eq_comm, Option.map_eq_some_iff] at hi
    obtain ⟨span', hs', hparts⟩ := hi
    rw [expand]
    split
    · simp_all
    · rename_i span₂ hs₂
      obtain rfl := Option.some.inj (hs'.symm.trans hs₂)
      rw [dif_pos hm, hparts, ih]
  | case5 i rest missing span hs hm =>
    have hi := h i
    rw [hs, Option.map_some, eq_comm, Option.map_eq_some_iff] at hi
    obtain ⟨span', hs', -⟩ := hi
    rw [expand]
    split
    · simp_all
    · rw [dif_neg hm]

theorem AlikeHidden.parts_eq {s s' : Hidden} (h : AlikeHidden k k' s s') (i : Nat) :
    s.spans[i]?.map (parts k) = s'.spans[i]?.map (parts k') := by
  have hsize : s.spans.size = s'.spans.size := h.spans.length_eq
  by_cases hi : i < s.spans.size
  · have hi' : i < s'.spans.size := hsize ▸ hi
    have halike := (List.forall₂_iff_get.mp h.spans).2 i hi hi'
    rw [Array.getElem?_eq_getElem hi, Array.getElem?_eq_getElem hi']
    exact congrArg some halike
  · rw [Array.getElem?_eq_none (Nat.le_of_not_lt hi),
      Array.getElem?_eq_none (Nat.le_of_not_lt (hsize ▸ hi))]
    rfl

/-- Masks that leave the same hide the same. -/
theorem AlikeHidden.shades_eq {s s' : Hidden} (h : AlikeHidden k k' s s') :
    s.shades k = s'.shades k' := by
  have hsize : s.spans.size = s'.spans.size := h.spans.length_eq
  have hregion : ∀ i, region? k s.spans i = region? k' s'.spans i := fun i => by
    rw [region?, region?, expand_eq_of_parts h.parts_eq, hsize]
  rw [Hidden.shades, Hidden.shades, h.text, shades, shades]
  simp only [hregion]

section
variable {p : Profile} (hns : ∀ ns ∈ p.fileNamespaces, ∀ c ∈ ns, c ∉ "[]⌊⌋".toList)

/-- What is left of a text when what is not formatted is hidden. -/
def withoutUnformatted (kind : Kind) (t : Text) : Hidden := Hidden.hide kind Region.unformatted ⟨t, #[]⟩

/-- The same text when images and addresses are hidden too. -/
def withoutAddresses (kind : Kind) (p : Profile) (t : Text) : Hidden :=
  (withoutUnformatted kind t).hide kind (Region.images p) |>.hide kind Region.externalLinks

theorem masks_withoutUnformatted (h : ¬ Contains kind t) : (withoutUnformatted kind t).Masks kind t :=
  (Hidden.masks_start h).hide clear_unformatted

theorem masks_withoutAddresses (p : Profile) (h : ¬ Contains kind t) :
    (withoutAddresses kind p t).Masks kind t :=
  ((masks_withoutUnformatted h).hide (clear_images p)).hide clear_externalLinks

theorem alikeHidden_withoutUnformatted (h : ¬ Contains k t) (h' : ¬ Contains k' t) :
    AlikeHidden k k' (withoutUnformatted k t) (withoutUnformatted k' t) :=
  alikeHidden_first (by decide) (by decide) h h'

include hns in
theorem alikeHidden_withoutAddresses (h : ¬ Contains k t) (h' : ¬ Contains k' t) :
    AlikeHidden k k' (withoutAddresses k p t) (withoutAddresses k' p t) := by
  have himages := (alikeHidden_withoutUnformatted h h').hide (impartial_image hns)
  rw [← images_eq] at himages
  have haddresses := himages.hide impartial_address
  rwa [← externalLinks_eq] at haddresses

theorem masks_withLinks (p : Profile) (h : ¬ Contains .broad t) :
    (withLinks (Region.images p) t).Masks .broad t :=
  ((((masks_withoutUnformatted h).hide clear_references).hideTemplates.hide (clear_images p)).hide
    clear_externalLinks).hide clear_headings

theorem covered_withLinks (p : Profile) (h : ¬ Contains .broad t) :
    Covered ((withoutUnformatted .broad t).shades .broad)
      ((withLinks (Region.images p) t).shades .broad) := by
  have hfirst := masks_withoutUnformatted h
  have hrefs := hfirst.hide clear_references
  have htemplates := hrefs.hideTemplates
  have himages := htemplates.hide (clear_images p)
  have haddresses := himages.hide clear_externalLinks
  exact (covered_hide hfirst clear_references).trans <| (covered_hideTemplates hrefs).trans <|
    (covered_hide htemplates (clear_images p)).trans <|
    (covered_hide himages clear_externalLinks).trans (covered_hide haddresses clear_headings)

/-- If there are no references and no templates, the broad mask goes on where the plain one ends. -/
theorem withLinks_eq (p : Profile)
    (hrefs : Region.references.isMatch (withoutUnformatted .broad t).text = false)
    (htemplates : Region.innermostTemplate.isMatch (withoutUnformatted .broad t).text = false) :
    withLinks (Region.images p) t = (withoutAddresses .broad p t).hide .broad Region.headings := by
  have hnone : (withoutUnformatted .broad t).hide .broad Region.references = withoutUnformatted .broad t :=
    hide_of_not_isMatch hrefs
  have htemplates' : withoutTemplates t = withoutUnformatted .broad t := by
    have hsame := hideTemplates_of_not_isMatch .broad htemplates
    rw [← hnone] at hsame
    exact hsame.trans hnone
  rw [withLinks, htemplates']
  rfl

theorem eq_of_hide {o : Options} (h : (ofProfile p o).hide t = .ok (u, m)) :
    let s := withoutUnformatted .plain t |>.hideIf .plain Region.references o.refs
      |>.hideIf .plain (Region.images p) o.images |>.hideIf .plain Region.externalLinks o.externalLinks
    u = s.text ∧ m.plain = s.spans := by
  unfold Mask.hide at h
  split at h
  · cases h
  · cases h
    exact ⟨rfl, rfl⟩

/-- What is not formatted is hidden by both masks. -/
theorem covered_unformatted (h : (ofProfile p { images := false }).hide t = .ok (u, m))
    (h' : (ofProfile p { images := false }).hideMore false t = .ok (u', m')) :
    (shades .plain m.plain (parts .plain u)).length = t.length ∧
      Covered (shades .plain m.plain (parts .plain u)) (shades .broad m'.broad (parts .broad u')) := by
  have hplain : ¬ Contains .plain t := (roundTrip_hide ⟨p, rfl⟩ rfl t).1.mp ⟨_, h⟩
  have hbroad : ¬ Contains .broad t := (roundTrip_hideMore ⟨p, rfl⟩ rfl false t).1.mp ⟨_, h'⟩
  obtain ⟨rfl, hspans⟩ := eq_of_hide h
  obtain ⟨rfl, hspans'⟩ := eq_of_hideMore h'
  rw [hspans, hspans']
  refine ⟨(masks_withoutUnformatted hplain).length_shades, ?_⟩
  change Covered ((withoutUnformatted .plain t).shades .plain) (Hidden.shades .broad _)
  rw [(alikeHidden_withoutUnformatted hplain hbroad).shades_eq]
  exact (covered_withLinks p hbroad).trans (covered_hide (masks_withLinks p hbroad) clear_links)

include hns in
/-- In a text without references and templates, the broad mask hides every character that the plain mask
hides. -/
theorem covered_hideMore
    (hrefs : Region.references.isMatch (withoutUnformatted .broad t).text = false)
    (htemplates : Region.innermostTemplate.isMatch (withoutUnformatted .broad t).text = false)
    (h : (ofProfile p { externalLinks := true }).hide t = .ok (u, m))
    (h' : (ofProfile p { externalLinks := true }).hideMore false t = .ok (u', m')) :
    (shades .plain m.plain (parts .plain u)).length = t.length ∧
      Covered (shades .plain m.plain (parts .plain u)) (shades .broad m'.broad (parts .broad u')) := by
  have hplain : ¬ Contains .plain t := (roundTrip_hide ⟨p, rfl⟩ rfl t).1.mp ⟨_, h⟩
  have hbroad : ¬ Contains .broad t := (roundTrip_hideMore ⟨p, rfl⟩ rfl false t).1.mp ⟨_, h'⟩
  obtain ⟨rfl, hspans⟩ := eq_of_hide h
  obtain ⟨rfl, hspans'⟩ := eq_of_hideMore h'
  rw [hspans, hspans']
  refine ⟨(masks_withoutAddresses p hplain).length_shades, ?_⟩
  change Covered ((withoutAddresses .plain p t).shades .plain)
    (((withLinks (Region.images p) t).hide .broad Region.links).shades .broad)
  rw [(alikeHidden_withoutAddresses hns hplain hbroad).shades_eq]
  have hheadings := covered_hide (masks_withoutAddresses p hbroad) clear_headings
  rw [← withLinks_eq p hrefs htemplates] at hheadings
  exact hheadings.trans (covered_hide (masks_withLinks p hbroad) clear_links)

end

/-- What is not formatted may look like a template. -/
example : let t := "<nowiki>\x7b\x7ba\x7d\x7d</nowiki> [[File:A.png|b [[c]] http://d]]".toList
    Region.references.isMatch (withoutUnformatted .broad t).text = false ∧
      Region.innermostTemplate.isMatch (withoutUnformatted .broad t).text = false := by
  decide +kernel

/-- A template in the caption of a file that ends behind the link. -/
theorem not_covered_hideMore :
    let m : Mask := ofProfile .englishWikipedia { externalLinks := true }
    let t := "[[File:A.png|\x7b\x7bt|]] x\x7d\x7d".toList
    ((m.hide t).map fun r => shades .plain r.2.plain (parts .plain r.1)) =
        .ok (List.replicate 19 true ++ List.replicate 4 false) ∧
      ((m.hideMore false t).map fun r => shades .broad r.2.broad (parts .broad r.1)) =
        .ok (List.replicate 13 false ++ List.replicate 10 true) := by
  decide +kernel

end Wikitext.Mask
