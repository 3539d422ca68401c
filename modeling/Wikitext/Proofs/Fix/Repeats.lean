import Wikitext.Fix.Links
import Wikitext.Fix.References
import Wikitext.Proofs.Fix.Tables
import Wikitext.Proofs.Fix.Text

/-!
# Fixes that act on repetition

Some fixes drop what is said twice: references with equal contents, and targets
of links that their labels repeat. An intact text names no stretch twice, so
what occurs twice in it has no placeholders at all.
-/

namespace Wikitext.Mask

variable {kind : Kind}

-- -----------------------------------------------------------------------------------------
-- Repetition in an intact text
-- -----------------------------------------------------------------------------------------

theorem Clean.bare (h : Clean kind t) (hn : numbers (parts kind t) = []) : Bare t := by
  induction t using parts.induct kind with
  | case1 => exact bare_nil
  | case2 c cs i rest hr _ => simp [parts_of_read hr, numbers] at hn
  | case3 c cs hr ih =>
    rw [Clean, parts_of_not_read hr] at h
    rw [parts_of_not_read hr, numbers] at hn
    exact bare_cons.mpr ⟨h c (by simp), ih (fun d hd => h d (by simp [hd])) hn⟩

/-- A text is read apart at a stretch that keeps apart. -/
theorem Apart.numbers_eq (hx : Apart x) (u v : Text) :
    numbers (parts kind (u ++ (x ++ v))) = numbers (parts kind u) ++ numbers (parts kind v) := by
  rw [hx.parts_eq, numbers_append, numbers_append, numbers_map_char, List.nil_append]

theorem Clean.split (hx : Apart x) (h : Clean kind (u ++ (x ++ v))) :
    Clean kind u ∧ Clean kind v := by
  rw [Clean, hx.parts_eq] at h
  exact ⟨fun c hc => h c (by simp [hc]), fun c hc => h c (by simp [hc])⟩

/-- Texts that name the same stretches, and none of them twice. -/
theorem bare_of_equal_numbers (hu : Clean kind u) (hv : Clean kind v)
    (he : numbers (parts kind u) = numbers (parts kind v))
    (hn : (numbers (parts kind u) ++ numbers (parts kind v)).Nodup) : Bare u ∧ Bare v := by
  have hnil : numbers (parts kind v) = [] := by
    rw [he, List.nodup_append] at hn
    exact List.eq_nil_iff_forall_not_mem.mpr fun i hi => hn.2.2 i hi i hi rfl
  exact ⟨hu.bare (he.trans hnil), hv.bare hnil⟩

theorem eq_nil_of_count {α : Type} [BEq α] [LawfulBEq α] {f : α → List Nat} {ks : List α} {k : α}
    (hn : (ks.flatMap f).Nodup) (hk : 2 ≤ ks.count k) : f k = [] := by
  have hsub : (List.replicate 2 k).Sublist ks := List.replicate_sublist_iff.mpr hk
  have h := hn.sublist (hsub.flatMap f)
  simp only [List.replicate_succ, List.replicate_zero, List.flatMap_cons, List.flatMap_nil,
    List.append_nil, List.nodup_append] at h
  exact List.eq_nil_iff_forall_not_mem.mpr fun i hi => h.2.2 i hi i hi rfl

-- -----------------------------------------------------------------------------------------
-- Matches in an intact text
-- -----------------------------------------------------------------------------------------

section
variable {p : Pattern} (hb : p.beginsOff marks = true) (hs : p.settlesOff marks = true)
include hb hs

/-- By induction along the pieces; what was kept since the last match stands in front. -/
theorem numbers_hits (hc : Cuts p b t ps) (u : Text) :
    ((hits ps).flatMap fun m => numbers (parts kind m.text)).Sublist
      (numbers (parts kind (u ++ t))) := by
  induction hc generalizing u with
  | nil => exact List.nil_sublist _
  | @kept b v r ps _ ih =>
    have h := ih (u ++ v)
    rwa [List.append_assoc] at h
  | @hit m b w r ps hm _ ih =>
    rw [parts_match hb hs hm.settles, numbers_append, numbers_append, hits, List.flatMap_cons,
      hm.text]
    exact ((List.Sublist.refl _).append (ih [])).trans (List.sublist_append_right _ _)

theorem clean_hit (hc : Cuts p b t ps) (hm : .hit m ∈ ps) (u : Text)
    (h : Clean kind (u ++ t)) : Clean kind m.text := by
  induction hc generalizing u with
  | nil => simp at hm
  | @kept b v r ps _ ih =>
    rw [← List.append_assoc] at h
    exact ih ((List.mem_cons.mp hm).resolve_left (by simp)) (u ++ v) h
  | @hit n b w r ps hn _ ih =>
    rw [Clean, parts_match hb hs hn.settles] at h
    rcases List.mem_cons.mp hm with hm | hm
    · cases hm
      rw [hn.text]
      exact fun c hc => h c (by simp [hc])
    · exact ih hm [] fun c hc => h c (by rw [List.nil_append] at hc; simp [hc])

theorem intact_hit (hm : .hit m ∈ p.compile.pieces t) (h : Intact kind t) :
    Intact kind m.text := by
  have hc := Regex.cuts_pieces p t
  refine ⟨clean_hit hb hs hc hm [] h.clean, ?_⟩
  have hsub : ((hits (p.compile.pieces t)).flatMap fun m => numbers (parts kind m.text)).Sublist
      (numbers (parts kind t)) := numbers_hits hb hs hc []
  have hone := (List.singleton_sublist.mpr (mem_hits.mpr hm)).flatMap fun m =>
    numbers (parts kind m.text)
  rw [List.flatMap_singleton] at hone
  exact h.nodup.sublist (hone.trans hsub)

/-- One piece of the text, added to what was made of the pieces before it. -/
def replacePiece (f : Match → σ → Text × σ) (made : Text × σ) : Piece → Text × σ
  | .kept t => (made.1 ++ t, made.2)
  | .hit m => (made.1 ++ (f m made.2).1, (f m made.2).2)

/-- By induction on the pieces. The numbers met before the last match are `ns`; what was kept since
then is `u`. -/
theorem edits_foldl {f : Match → σ → Text × σ} (Inv : List Nat → σ → Prop)
    (mono : ∀ {ns ns' s}, ns ⊆ ns' → Inv ns s → Inv ns' s)
    (hf : ∀ {m b w r ns s}, Takes p m b w r → Clean kind w →
      (ns ++ numbers (parts kind w)).Nodup → Inv ns s →
      Edits w (f m s).1 ∧ Inv (ns ++ numbers (parts kind w)) (f m s).2)
    (hc : Cuts p b t ps) (h : Clean kind (u ++ t))
    (hn : (ns ++ numbers (parts kind (u ++ t))).Nodup) (hi : Inv ns s) :
    Edits (a ++ t) (ps.foldl (replacePiece f) (a, s)).1 := by
  induction hc generalizing u ns s a with
  | nil =>
    rw [List.append_nil]
    exact .refl
  | @kept b v r ps _ ih =>
    rw [← List.append_assoc] at h hn ⊢
    exact ih h hn hi
  | @hit m b w r ps hm _ ih =>
    rw [Clean, parts_match hb hs hm.settles] at h
    rw [parts_match hb hs hm.settles, numbers_append, numbers_append] at hn
    have hw : Clean kind w := fun c hc => h c (by simp [hc])
    have hr : Clean kind ([] ++ r) := fun c hc => h c (by rw [List.nil_append] at hc; simp [hc])
    have hi' : Inv (ns ++ numbers (parts kind u)) s := mono (List.subset_append_left _ _) hi
    rw [← List.append_assoc, ← List.append_assoc] at hn
    obtain ⟨hedit, hnext⟩ := hf hm hw (List.nodup_append.mp hn).1 hi'
    have h := (hedit.append_left a).append_right r
    rw [List.append_assoc] at h
    exact h.trans (ih hr hn hnext)

end

theorem replaceWith_eq (r : Regex) (f : Match → σ → Text × σ) (s : σ) (t : Text) :
    r.replaceWith f s t = (r.pieces t).foldl (replacePiece f) ([], s) := by
  have hstep : (fun (made : Text × σ) piece =>
      match piece with
      | .kept t => (made.1 ++ t, made.2)
      | .hit m => (made.1 ++ (f m made.2).1, (f m made.2).2)) = replacePiece f := by
    funext made piece
    cases piece <;> rfl
  rw [← hstep]
  rfl

/-- Replacing all matches of an intact text, with a state that goes along. -/
theorem edits_replaceWith {p : Pattern} {f : Match → σ → Text × σ}
    (hb : p.beginsOff marks = true) (hs : p.settlesOff marks = true) (Inv : List Nat → σ → Prop)
    (mono : ∀ {ns ns' s}, ns ⊆ ns' → Inv ns s → Inv ns' s)
    (hf : ∀ {m b w r ns s}, Takes p m b w r → Clean kind w →
      (ns ++ numbers (parts kind w)).Nodup → Inv ns s →
      Edits w (f m s).1 ∧ Inv (ns ++ numbers (parts kind w)) (f m s).2)
    (ht : Intact kind t) (hi : Inv [] s) : Edits t (p.compile.replaceWith f s t).1 := by
  rw [replaceWith_eq]
  have hn : ([] ++ numbers (parts kind ([] ++ t))).Nodup := ht.nodup
  exact edits_foldl (a := []) (u := []) hb hs Inv mono hf (Regex.cuts_pieces p t) ht.clean hn hi

end Wikitext.Mask

namespace Wikitext.Fix

open Mask Pattern

variable {kind : Kind}

/-- A function that leaves intact texts intact, with the same stretches in the same order. -/
def Steady (kind : Kind) (f : Text → Text) : Prop := ∀ t, Keeps kind t (f t)

theorem Harmless.steady (h : Harmless f) : Steady kind f := fun t => (h t).keeps

theorem Steady.untilStable (h : Steady kind f) : Steady kind (untilStable f) :=
  untilStable_related Keeps.refl Keeps.trans h

-- -----------------------------------------------------------------------------------------
-- Labels of links
-- -----------------------------------------------------------------------------------------

/-- Two parts between stretches that keep apart, and what stands behind them. -/
theorem Clean.split_two (hx : Apart x) (hy : Apart y) (hz : Apart z)
    (h : Clean kind (x ++ (u ++ (y ++ (v ++ (z ++ r)))))) :
    Clean kind u ∧ Clean kind v ∧ Clean kind r ∧
      numbers (parts kind (x ++ (u ++ (y ++ (v ++ (z ++ r)))))) =
        numbers (parts kind u) ++ (numbers (parts kind v) ++ numbers (parts kind r)) := by
  obtain ⟨-, h₁⟩ := Clean.split (u := []) hx h
  obtain ⟨hu, h₂⟩ := Clean.split hy h₁
  obtain ⟨hv, hr⟩ := Clean.split hz h₂
  refine ⟨hu, hv, hr, ?_⟩
  have hall : numbers (parts kind ([] ++ (x ++ (u ++ (y ++ (v ++ (z ++ r))))))) = _ :=
    hx.numbers_eq [] _
  rwa [hy.numbers_eq, hz.numbers_eq, parts_nil] at hall

theorem apart_lower {t : Text} (hne : t ≠ []) (h : ∀ c ∈ t, 'a' ≤ c ∧ c ≤ 'z') : Apart t := by
  have hmark : ∀ c ∈ t, c ∉ marks := by
    have hall : ∀ c ∈ marks, ¬ ('a' ≤ c ∧ c ≤ 'z') := by decide
    exact fun c hc hm => hall c hm (h c hc)
  obtain ⟨c, t, rfl⟩ := List.exists_cons_of_ne_nil hne
  exact ⟨fun d hd hm => hmark d hd (corners_subset_marks hm), c, by simp, hmark c (by simp)⟩

/-- A link that is made simpler repeats its target in its label. -/
theorem simplerLink_cases (ht : Clean kind (m.group 1)) (hl : Clean kind (m.group 2)) :
    simplerLink m = m.text ∨
      numbers (parts kind (m.group 1)) = numbers (parts kind (m.group 2)) ∧
        (Bare (m.group 2) → Bare (simplerLink m)) := by
  unfold simplerLink
  dsimp only
  split
  · exact .inl rfl
  · split
    · rename_i hsame
      exact .inr ⟨numbers_of_sameName ht hl hsame, fun hb => by simp [hb, corners]⟩
    · split
      · rename_i hfront
        simp only [Bool.and_eq_true, Bool.not_eq_true', List.isEmpty_eq_false_iff,
          List.all_eq_true, decide_eq_true_eq] at hfront
        obtain ⟨⟨hne, hsame⟩, hlower⟩ := hfront
        have hsplit := List.take_append_drop (m.group 1).length (m.group 2)
        have hend := apart_lower hne hlower
        have hcut : (m.group 2).take (m.group 1).length ++
            ((m.group 2).drop (m.group 1).length ++ []) = m.group 2 := by
          rw [List.append_nil, hsplit]
        have hclean : Clean kind ((m.group 2).take (m.group 1).length) := by
          refine (Clean.split (v := []) hend ?_).1
          rwa [hcut]
        have hnumbers : numbers (parts kind _) = _ :=
          hend.numbers_eq ((m.group 2).take (m.group 1).length) []
        rw [hcut, parts_nil, numbers, List.append_nil] at hnumbers
        refine .inr ⟨?_, fun hb => ?_⟩
        · rw [hnumbers]
          exact (numbers_of_sameName hclean ht hsame).symm
        · have hb' := hb
          rw [← hsplit, bare_append] at hb'
          simp [hb'.1, hb'.2, corners]
      · exact .inl rfl

theorem steady_simplifyLinks : Steady kind simplifyLinks := by
  intro t ht
  refine (edits_replaceAll fun {m b w r} hhit hm => ?_ : Edits t (simplifyLinks t)).keeps ht
  have hi : Intact kind m.text := intact_hit (by decide) (by decide) hhit ht
  have hslots := (gentle_of_slots
    [.lit "[[".toList, .group 1, .lit "|".toList, .group 2, .lit "]]".toList] (by decide)
    fun _ => rfl).edits hm
  have hall : Intact kind _ := (hslots.keeps (hm.text ▸ hi)).1
  obtain ⟨ht, hl, -, he⟩ := Clean.split_two ⟨by decide, '[', by decide, by decide⟩
    ⟨by decide, '|', by decide, by decide⟩ ⟨by decide, ']', by decide, by decide⟩ hall.clean
  have hn := he ▸ hall.nodup
  rw [fill, parts_nil, numbers, List.append_nil] at hn
  rcases simplerLink_cases ht hl with he | ⟨he, hbare⟩
  · exact he ▸ hm.text ▸ .refl
  · obtain ⟨ht, hl⟩ := bare_of_equal_numbers ht hl he hn
    refine hslots.trans (Edits.of_apart ?_ (hbare hl))
    exact ⟨by simp [fill, ht, hl, corners], '[', by simp [fill], by decide⟩

theorem steady_stickyLinks : Steady kind stickyLinks := by
  intro t ht
  refine (edits_replaceAll fun {m b w r} hhit hm => ?_ : Edits t (stickyLinks t)).keeps ht
  have hi : Intact kind m.text := intact_hit (by decide) (by decide) hhit ht
  have hslots := (gentle_of_slots
    [.lit "[[".toList, .group 1, .lit "|".toList, .group 2, .lit "]] ".toList, .group 3]
    (by decide) fun _ => rfl).edits hm
  have hall : Intact kind _ := (hslots.keeps (hm.text ▸ hi)).1
  obtain ⟨ht, hl, hr, he⟩ := Clean.split_two ⟨by decide, '[', by decide, by decide⟩
    ⟨by decide, '|', by decide, by decide⟩ ⟨by decide, ']', by decide, by decide⟩ hall.clean
  have hn := he ▸ hall.nodup
  dsimp only
  split
  · rename_i hsame
    simp only [fill, List.append_nil] at hr hn
    have hspace : Apart " ".toList := ⟨by decide, ' ', by decide, by decide⟩
    have hjoined : Clean kind (m.group 2 ++ (" ".toList ++ m.group 3)) :=
      hl.append (hspace.bare.clean.append hr)
    rw [← hspace.numbers_eq] at hn
    rw [List.append_assoc] at hsame
    obtain ⟨ht, hj⟩ := bare_of_equal_numbers ht hjoined (numbers_of_sameName ht hjoined hsame) hn
    simp only [bare_append] at hj
    refine hslots.trans (Edits.of_apart ?_ ?_)
    · exact ⟨by simp [fill, ht, hj, corners], '[', by simp [fill], by decide⟩
    · simp [hj, corners]
  · exact hm.text ▸ .refl

-- -----------------------------------------------------------------------------------------
-- Repeated references
-- -----------------------------------------------------------------------------------------

theorem clean_trim (h : Clean kind t) : Clean kind (Text.trim t) := ((harmless_trim t).clean h).1

theorem numbers_trim (h : Clean kind t) :
    numbers (parts kind (Text.trim t)) = numbers (parts kind t) :=
  ((harmless_trim t).clean h).2

theorem bare_reuseTag (h : Bare name) : Bare (reuseTag name) :=
  bare_append.mpr ⟨bare_append.mpr ⟨by decide, h⟩, by decide⟩

/-- What a reference without a name is written as, with its content. -/
def unnamedSlots : List Slot := [.lit "<ref>".toList, .group 1, .lit "</ref>".toList]

/-- All placeholders of a reference without a name are in its content. -/
theorem unnamedRef_content {p : Pattern} (hp : admits p unnamedSlots = true)
    (hm : Takes p.caseless m b w r) (hw : Clean kind w) :
    Clean kind (m.group 1) ∧ numbers (parts kind (m.group 1)) = numbers (parts kind w) ∧
      (Bare (m.group 1) → ∀ y, Bare y → Edits w y) := by
  have hslots := (gentle_caseless_of_slots unnamedSlots hp fun _ => rfl).edits hm
  obtain ⟨hclean, hnumbers⟩ := hslots.clean hw
  simp only [unnamedSlots, fill] at hslots hclean hnumbers
  have hopen : Apart "<ref>".toList := ⟨by decide, '<', by decide, by decide⟩
  have hclose : Apart "</ref>".toList := ⟨by decide, '<', by decide, by decide⟩
  obtain ⟨-, hrest⟩ := Clean.split (u := []) hopen hclean
  have hall : numbers (parts kind w) = numbers (parts kind (m.group 1)) := by
    have h : numbers (parts kind _) = _ :=
      hopen.numbers_eq [] (m.group 1 ++ ("</ref>".toList ++ []))
    rw [hclose.numbers_eq, List.nil_append, hnumbers] at h
    simpa [numbers] using h
  refine ⟨(Clean.split hclose hrest).1, hall.symm, fun hg y hy => ?_⟩
  refine hslots.trans (Edits.of_apart (hopen.append_right ?_) hy)
  exact bare_append.mpr ⟨hg, bare_append.mpr ⟨by decide, bare_nil⟩⟩

/-- A content that occurs twice has no placeholders. -/
theorem bare_of_repeated {p : Pattern} (hp : admits p unnamedSlots = true)
    (hb : p.caseless.beginsOff marks = true) (hs : p.caseless.settlesOff marks = true)
    (ht : Intact kind t)
    (hk : 2 ≤ ((p.caseless.compile.matches' t).map fun m => Text.trim (m.group 1)).count key) :
    Bare key := by
  have hc := Regex.cuts_pieces p.caseless t
  rw [matches_eq_hits] at hk
  have hcontent : ∀ m ∈ hits (p.caseless.compile.pieces t),
      Clean kind (Text.trim (m.group 1)) ∧
        numbers (parts kind (Text.trim (m.group 1))) = numbers (parts kind m.text) := by
    intro m hm
    rw [mem_hits] at hm
    obtain ⟨_, _, w, -, htakes⟩ := hc.takes_of_hit hm
    have hw : Clean kind w := htakes.text ▸ clean_hit hb hs hc hm [] ht.clean
    obtain ⟨hclean, hnumbers, -⟩ := unnamedRef_content hp htakes hw
    exact ⟨clean_trim hclean, by rw [numbers_trim hclean, hnumbers, htakes.text]⟩
  have hflat : (((hits (p.caseless.compile.pieces t)).map fun m =>
      Text.trim (m.group 1)).flatMap fun key => numbers (parts kind key)).Nodup := by
    rw [List.flatMap_map, List.flatMap_congr fun m hm => (hcontent m hm).2]
    exact ht.nodup.sublist (numbers_hits hb hs hc [])
  have hmem : key ∈ (hits (p.caseless.compile.pieces t)).map fun m => Text.trim (m.group 1) :=
    List.count_pos_iff.mp (by omega)
  obtain ⟨m, hm, rfl⟩ := List.mem_map.mp hmem
  exact (hcontent m hm).1.bare (eq_nil_of_count (f := fun key => numbers (parts kind key)) hflat hk)

/-- The names that are still free and those that were given have no corner brackets. -/
structure Naming.Unmarked (s : Naming) : Prop where
  free : ∀ name ∈ s.free, Bare name
  given : ∀ e ∈ s.given, ∀ name ∈ e.2, Bare name

theorem edits_nameOne {p : Pattern} (hp : admits p unnamedSlots = true)
    (hm : Takes p.caseless m b w r) (hw : Clean kind w) (hs : s.Unmarked)
    (hbare : 2 ≤ contents.count (Text.trim (m.group 1)) → Bare (Text.trim (m.group 1))) :
    Edits w (nameOne contents m s).1 ∧ (nameOne contents m s).2.Unmarked := by
  have htext : Edits w m.text := hm.text ▸ .refl
  obtain ⟨-, -, hedit⟩ := unnamedRef_content hp hm hw
  unfold nameOne
  dsimp only
  split
  · exact ⟨htext, hs⟩
  · rename_i hcount
    have hg : Bare (m.group 1) := bare_of_trim (hbare (by omega))
    split
    · rename_i name hlookup
      obtain ⟨_, _, heq, -⟩ := List.lookup_eq_some_iff.mp hlookup
      have hname : Bare name := hs.given _ (heq ▸ List.mem_append_right _ List.mem_cons_self) name rfl
      exact ⟨hedit hg _ (bare_reuseTag hname), hs⟩
    · exact ⟨htext, hs⟩
    · split
      · refine ⟨htext, hs.free, ?_⟩
        simpa using hs.given
      · rename_i name free hfree
        have hnames := hs.free
        rw [hfree] at hnames
        have hname : Bare name := hnames name List.mem_cons_self
        refine ⟨hedit hg _ ?_, fun n hn => hnames n (List.mem_cons_of_mem _ hn), ?_⟩
        · simp only [bare_append]
          exact ⟨⟨⟨⟨by decide, hname⟩, by decide⟩, hg⟩, by decide⟩
        · simpa [hname] using hs.given

theorem steady_nameRepeated : Steady kind nameRepeated := by
  intro t ht
  obtain ⟨p, he, hp, hb, hs⟩ : ∃ p : Pattern, unnamedRef = p.caseless.compile ∧
      admits p unnamedSlots = true ∧ p.beginsOff ('m' :: marks) = true ∧
      p.settlesOff ('m' :: marks) = true :=
    ⟨_, rfl, by decide, by decide, by decide⟩
  have hb' := beginsOff_caseless caseClosure_marks hb
  have hs' := settlesOff_caseless caseClosure_marks hs
  have hnames : ∀ name ∈ mergedNames, Bare name := by decide
  refine Edits.keeps (?_ : Edits t (nameRepeated t)) ht
  unfold nameRepeated
  dsimp only
  rw [he]
  refine edits_replaceWith hb' hs' (fun _ s => s.Unmarked) (fun _ h => h)
    (fun {m b w r ns s} hm hw _ hi => ?_) ht ?_
  · exact edits_nameOne hp hm hw hi fun hk => bare_of_repeated hp hb' hs' ht hk
  · exact ⟨fun name hname => hnames name (List.mem_filter.mp hname).1, by simp⟩

theorem steady_mergeUnnamed : Steady kind mergeUnnamed := steady_nameRepeated.untilStable

/-- What a reference with a name is written as, with its content. -/
def namedSlots : List Slot :=
  [.lit "<ref name=\"".toList, .group 1, .lit "\">".toList, .group 2, .lit "</ref>".toList]

/-- The numbers of all names and contents are among `ns`. -/
def Definitions.Within (kind : Kind) (ns : List Nat) (seen : Definitions) : Prop :=
  ∀ e ∈ seen, numbers (parts kind e.1) ⊆ ns ∧ numbers (parts kind e.2) ⊆ ns

theorem bare_of_known (h : Clean kind t) (hns : numbers (parts kind t) ⊆ ns)
    (hms : numbers (parts kind t) ⊆ ms) (hn : (ns ++ ms).Nodup) : Bare t :=
  h.bare (List.eq_nil_iff_forall_not_mem.mpr fun i hi =>
    (List.nodup_append.mp hn).2.2 i (hns hi) i (hms hi) rfl)

theorem edits_reuseOne {p : Pattern} (hp : admits p namedSlots = true)
    (hm : Takes p.caseless m b w r) (hw : Clean kind w)
    (hn : (ns ++ numbers (parts kind w)).Nodup) (hs : Definitions.Within kind ns seen) :
    Edits w (reuseOne m seen).1 ∧
      Definitions.Within kind (ns ++ numbers (parts kind w)) (reuseOne m seen).2 := by
  have htext : Edits w m.text := hm.text ▸ .refl
  have hslots := (gentle_caseless_of_slots namedSlots hp fun _ => rfl).edits hm
  have hopen : Apart "<ref name=\"".toList := ⟨by decide, '<', by decide, by decide⟩
  obtain ⟨hclean, hnumbers⟩ := hslots.clean hw
  obtain ⟨hname, hcontent, -, he⟩ := Clean.split_two hopen ⟨by decide, '>', by decide, by decide⟩
    ⟨by decide, '<', by decide, by decide⟩ hclean
  have hnumbers := he.symm.trans hnumbers
  have hname' : numbers (parts kind (Text.trim (m.group 1))) ⊆ numbers (parts kind w) := by
    rw [numbers_trim hname, ← hnumbers]
    exact List.subset_append_left _ _
  have hcontent' : numbers (parts kind (Text.trim (m.group 2))) ⊆ numbers (parts kind w) := by
    rw [numbers_trim hcontent, ← hnumbers]
    exact List.Subset.trans (List.subset_append_left _ _) (List.subset_append_right _ _)
  have hmore : Definitions.Within kind (ns ++ numbers (parts kind w)) seen := fun e h =>
    ⟨List.subset_append_of_subset_left _ (hs e h).1, List.subset_append_of_subset_left _ (hs e h).2⟩
  unfold reuseOne
  dsimp only
  split
  · rename_i first hlookup
    refine ⟨?_, hmore⟩
    split
    · rename_i hfirst
      obtain rfl := eq_of_beq hfirst
      obtain ⟨_, _, heq, -⟩ := List.lookup_eq_some_iff.mp hlookup
      have hknown := hs _ (heq ▸ List.mem_append_right _ List.mem_cons_self)
      have hb₁ := bare_of_known (clean_trim hname) hknown.1 hname' hn
      have hb₂ := bare_of_known (clean_trim hcontent) hknown.2 hcontent' hn
      refine hslots.trans (Edits.of_apart (hopen.append_right ?_) (bare_reuseTag hb₁))
      refine bare_append.mpr ⟨bare_of_trim hb₁, bare_append.mpr ⟨by decide, ?_⟩⟩
      exact bare_append.mpr ⟨bare_of_trim hb₂, bare_append.mpr ⟨by decide, bare_nil⟩⟩
    · exact htext
  · refine ⟨htext, fun e h => ?_⟩
    rcases List.mem_cons.mp h with rfl | h
    · exact ⟨List.subset_append_of_subset_right _ hname',
        List.subset_append_of_subset_right _ hcontent'⟩
    · exact hmore e h

theorem steady_mergeNamed : Steady kind mergeNamed := by
  obtain ⟨p, he, hp, hb, hs⟩ : ∃ p : Pattern, namedRef = p.caseless.compile ∧
      admits p namedSlots = true ∧ p.beginsOff ('m' :: marks) = true ∧
      p.settlesOff ('m' :: marks) = true :=
    ⟨_, rfl, by decide, by decide, by decide⟩
  refine Steady.untilStable fun t ht => Edits.keeps ?_ ht
  rw [he]
  exact edits_replaceWith (beginsOff_caseless caseClosure_marks hb)
    (settlesOff_caseless caseClosure_marks hs) (Definitions.Within kind)
    (fun hsub h e he => ⟨List.Subset.trans (h e he).1 hsub, List.Subset.trans (h e he).2 hsub⟩)
    (fun hm hw hn hi => edits_reuseOne hp hm hw hn hi) ht (by simp [Definitions.Within])

end Wikitext.Fix
