import Wikitext.Fix.Basic
import Wikitext.Proofs.Mask.Edit
import Wikitext.Proofs.Mask.RoundTrip
import Wikitext.Proofs.Pattern.Shape

/-!
# Harmless replacements

A harmless function of texts only makes edits that keep placeholders. What is
put in the place of a match is gentle if the match has no corner brackets
(`gentle_of_bare`), or if the groups of the match stay, in their order, and only
what lies between them is written anew (`gentle_of_slots`). Both are checked on
the pattern alone, and the checks also serve for the pattern without regard to
letter case.
-/

namespace Wikitext

-- -----------------------------------------------------------------------------------------
-- Groups of a match
-- -----------------------------------------------------------------------------------------

theorem Captures.get?_eq (cs : Captures) (i : Nat) : cs.get? i = cs.texts.lookup i := by
  induction cs with
  | nil => rfl
  | cons c cs ih =>
    have hstep : Captures.get? (c :: cs) i =
        if c.index = i then some c.text else Captures.get? cs i := by
      by_cases h : c.index = i <;> simp [Captures.get?, h]
    rw [hstep, Captures.texts, List.map_cons, List.lookup_cons]
    by_cases h : c.index = i
    · simp [h]
    · have hi : (i == c.index) = false := by simpa using Ne.symm h
      rw [if_neg h, hi, ih]
      rfl

theorem Match.group?_eq (m : Match) (hi : i ≠ 0) : m.group? i = m.captures.texts.lookup i := by
  have h : (i == 0) = false := by simpa using hi
  rw [Match.group?, h, if_neg (by simp), Captures.get?_eq]

theorem Match.group_eq (m : Match) (hi : i ≠ 0) (h : m.captures.texts.lookup i = some g) :
    m.group i = g := by
  rw [Match.group, m.group?_eq hi, h]
  rfl

theorem Match.group_eq_of_texts {m : Match} (h : m.captures.texts = gs) (hi : i ≠ 0)
    (hg : gs.lookup i = some g) : m.group i = g :=
  m.group_eq hi (h ▸ hg)

theorem lookup_of_mem {gs : Groups} (hn : (gs.map (·.1)).Nodup) (h : (i, g) ∈ gs) :
    gs.lookup i = some g := by
  induction gs with
  | nil => simp at h
  | cons p gs ih =>
    obtain ⟨j, g'⟩ := p
    rw [List.map_cons, List.nodup_cons] at hn
    rw [List.lookup_cons]
    rcases List.mem_cons.mp h with h | h
    · cases h
      simp
    · have hij : i ≠ j := fun hij => hn.1 (List.mem_map.mpr ⟨(i, g), h, hij⟩)
      have hb : (i == j) = false := by simpa using hij
      rw [hb]
      exact ih hn.2 h

/-- The groups `gs` are those of the match. -/
structure Match.Has (m : Match) (gs : Groups) : Prop where
  group : ∀ p ∈ gs, m.group? p.1 = some p.2
  other : ∀ i, i ≠ 0 → i ∉ gs.map (·.1) → m.group? i = none

/-- The groups of a match by the shape that it has. -/
theorem fits_of_takes {p : Pattern} (h : Takes p m b w r) (hp : p.shapes = some ss) :
    ∃ s ∈ ss, ∃ gs, Pattern.Shape.Fits s b w r gs ∧
      ((0 :: Pattern.Shape.indices s).Nodup → Match.Has m gs) := by
  obtain ⟨s, hs, hf⟩ := h.reads.fits hp
  refine ⟨s, hs, _, hf, fun hn => ⟨fun ⟨i, g⟩ hg => ?_, fun i hi hg => ?_⟩⟩
  · rw [hf.indices_eq, List.nodup_cons] at hn
    have hi : i ≠ 0 := fun hi => hn.1 (hi ▸ List.mem_map_of_mem hg)
    rw [m.group?_eq hi]
    refine lookup_of_mem ?_ (List.mem_reverse.mp hg)
    simpa using hn.2
  · rw [m.group?_eq hi, List.lookup_eq_none_iff]
    intro p hp
    have hne : i ≠ p.1 := fun he => hg (he ▸ List.mem_map_of_mem (List.mem_reverse.mpr hp))
    simpa using hne

theorem Match.Has.group_eq (h : Match.Has m gs) (hg : (i, g) ∈ gs) : m.group i = g := by
  rw [Match.group, h.group _ hg, Option.getD_some]

theorem Match.Has.group_eq_nil (h : Match.Has m gs) (hi : i ≠ 0) (hg : i ∉ gs.map (·.1)) :
    m.group i = [] := by
  rw [Match.group, h.other i hi hg, Option.getD_none]

open Mask

theorem Takes.group_subset {p : Pattern} (h : Takes p m b w r) (i : Nat) : m.group i ⊆ w := by
  by_cases hi : i = 0
  · subst hi
    exact h.text ▸ List.Subset.refl w
  · rw [Match.group, m.group?_eq hi]
    cases hg : m.captures.texts.lookup i with
    | none => exact List.nil_subset w
    | some g =>
      obtain ⟨_, _, heq, -⟩ := List.lookup_eq_some_iff.mp hg
      exact (h.reads.groups_within (i, g) (by simp [heq])).subset

/-- The groups of a match without corner brackets have none. -/
theorem Takes.group_bare {p : Pattern} (h : Takes p m b w r) (hw : Bare w) (i : Nat) :
    Bare (m.group i) :=
  hw.subset (h.group_subset i)

-- -----------------------------------------------------------------------------------------
-- Harmless functions
-- -----------------------------------------------------------------------------------------

namespace Fix

open Pattern

/-- What holds between every text and its successor holds between a text and the one settled
on. -/
theorem untilStable_related {R : Text → Text → Prop} (hr : ∀ t, R t t)
    (ht : ∀ {t u v}, R t u → R u v → R t v) (h : ∀ t, R t (f t)) (t : Text) :
    R t (untilStable f t) := by
  have hs : ∀ n t, R t (settle f n t) := by
    intro n
    induction n with
    | zero => exact hr
    | succ n ih =>
      intro t
      rw [settle]
      split
      · exact hr t
      · exact ht (h t) (ih (f t))
  exact ht (h t) (hs _ _)

/-- What holds between a text with a match in it and the text with the match replaced holds between
a text and the one with all matches replaced: by induction on the pieces. In front of them stands
the text `x`, made from the pieces before them; what is known of it, and of the last character
replaced, is `W`. -/
theorem related_pieces {R : Text → Text → Prop} {W : Option Char → Text → Prop} {p : Pattern}
    {f : Match → Text} (hr : ∀ t, R t t) (ht : ∀ {t u v}, R t u → R u v → R t v)
    (hkept : ∀ b x u, W b x → W (lastOf b u) (x ++ u))
    (hhit : ∀ {m b w r x}, m ∈ hits ps → Takes p m b w r → W b x →
      R (x ++ (w ++ r)) (x ++ (f m ++ r)) ∧ W (lastOf b w) (x ++ f m))
    (hc : Cuts p b t ps) (hx : W b x) :
    R (x ++ t) (x ++ ps.flatMap fun
      | .kept t => t
      | .hit m => f m) := by
  induction hc generalizing x with
  | nil => exact hr _
  | kept _ ih =>
    have hrest := ih hhit (hkept _ _ _ hx)
    simpa only [List.flatMap_cons, List.append_assoc] using hrest
  | hit hm _ ih =>
    obtain ⟨hone, hx⟩ := hhit List.mem_cons_self hm hx
    have hrest := ih (fun hmem => hhit (List.mem_cons_of_mem _ hmem)) hx
    rw [List.append_assoc] at hrest
    simpa only [List.flatMap_cons, List.append_assoc] using ht hone hrest

theorem replaceAll_related {R : Text → Text → Prop} {p : Pattern} {f : Match → Text}
    (hr : ∀ t, R t t) (ht : ∀ {t u v}, R t u → R u v → R t v)
    (hhit : ∀ {m b w r}, m ∈ p.compile.matches' t → Takes p m b w r →
      ∀ x, R (x ++ (w ++ r)) (x ++ (f m ++ r))) : R t (p.compile.replaceAll f t) :=
  related_pieces (W := fun _ _ => True) (x := []) hr ht (fun _ _ _ _ => trivial)
    (fun hmem hm _ => ⟨hhit (matches_eq_hits _ t ▸ hmem) hm _, trivial⟩) (Regex.cuts_pieces p t) trivial

/-- Whatever the text is, it is changed by edits that keep placeholders. -/
def Harmless (f : Text → Text) : Prop := ∀ t, Edits t (f t)

theorem Harmless.comp (hf : Harmless f) (hg : Harmless g) : Harmless fun t => f (g t) := fun t =>
  (hg t).trans (hf (g t))

theorem Harmless.untilStable (h : Harmless f) : Harmless (untilStable f) :=
  untilStable_related (fun _ => .refl) Relation.ReflTransGen.trans h

/-- Whatever the match is, what stands in its place comes from it by edits that keep
placeholders. -/
structure Gentle (p : Pattern) (f : Match → Text) : Prop where
  edits : Takes p m b w r → Edits w (f m)

theorem Harmless.replaceAll {p : Pattern} (h : Gentle p f) : Harmless (p.compile.replaceAll f) :=
  fun _ => edits_replaceAll fun _ => h.edits

theorem Harmless.apply {p : Pattern} (h : Gentle p f) : Harmless (Replacement.of p f).apply :=
  .replaceAll h

theorem Harmless.nil : Harmless (replaceOnce []) := fun _ => .refl

theorem Harmless.cons {p : Pattern} (h : Gentle p f) (ht : Harmless (replaceOnce table)) :
    Harmless (replaceOnce (.of p f :: table)) :=
  ht.comp (.apply h)

/-- What stands in the place of a match is edited further. -/
theorem Gentle.trans {p : Pattern} (h : Gentle p f)
    (hg : ∀ m b w r, Takes p m b w r → Edits (f m) (g m)) : Gentle p g :=
  ⟨fun hm => (h.edits hm).trans (hg _ _ _ _ hm)⟩

theorem Gentle.either {p : Pattern} (hf : Gentle p f) (hg : Gentle p g)
    (h : ∀ m, k m = f m ∨ k m = g m) : Gentle p k where
  edits {m b w r} hm := by
    rcases h m with h | h
    · exact h ▸ hf.edits hm
    · exact h ▸ hg.edits hm

theorem gentle_text (p : Pattern) : Gentle p Match.text := ⟨fun hm => hm.text ▸ .refl⟩

-- -----------------------------------------------------------------------------------------
-- Matches without corner brackets
-- -----------------------------------------------------------------------------------------

/-- The matches of the pattern keep apart from placeholders. -/
def KeepsApart (p : Pattern) : Prop := ∀ b w r gs, p.Reads b w r gs → Apart w

/-- A check for `KeepsApart`, with or without regard to letter case. -/
def isApart (p : Pattern) : Bool := p.avoids corners && p.strays ('m' :: marks)

theorem isApart_append {p q : Pattern} (hp : isApart p = true) (hq : q.avoids corners = true) :
    isApart (p ++ q) = true := by
  rw [isApart, Bool.and_eq_true] at hp
  rw [isApart, avoids_append, strays_append, hp.1, hp.2, hq]
  rfl

theorem caseClosure_corners : CaseClosure corners corners := by decide +kernel

theorem caseClosure_cased : CaseClosure ('m' :: marks) ('m' :: marks) := by decide +kernel

theorem keepsApart (fold : Bool) {p : Pattern} (hp : isApart p = true) :
    KeepsApart (p.folded fold) := by
  intro b w r gs h
  rw [isApart, Bool.and_eq_true] at hp
  exact ⟨avoids_folded caseClosure_corners fold hp.1 h,
    strays_folded caseClosure_marks fold hp.2 h⟩

theorem KeepsApart.gentle {p : Pattern} (hp : KeepsApart p)
    (hf : ∀ m, (∀ i, Bare (m.group i)) → Bare (f m)) : Gentle p f where
  edits h :=
    have hw := hp _ _ _ _ h.reads
    .of_apart hw (hf _ (h.group_bare hw.bare))

theorem gentle_of_bare {p : Pattern} {f : Match → Text} (hp : isApart p = true)
    (hf : ∀ m, (∀ i, Bare (m.group i)) → Bare (f m)) : Gentle p f :=
  (keepsApart false hp).gentle hf

theorem gentle_caseless_of_bare {p : Pattern} {f : Match → Text} (hp : isApart p = true)
    (hf : ∀ m, (∀ i, Bare (m.group i)) → Bare (f m)) : Gentle p.caseless f :=
  (keepsApart true hp).gentle hf

-- -----------------------------------------------------------------------------------------
-- Matches made up anew from their groups
-- -----------------------------------------------------------------------------------------

/-- What a new text is made of. -/
inductive Slot
  | lit (t : Text)
  | group (index : Nat)

def fill (m : Match) : List Slot → Text
  | [] => []
  | .lit t :: slots => t ++ fill m slots
  | .group i :: slots => m.group i ++ fill m slots

/-- What the pattern matches becomes `t` by edits that keep placeholders. -/
def Yields (p : Pattern) (t : Text) : Prop := ∀ b w r gs, p.Reads b w r gs → Edits w t

/-- A check for `Yields`, with or without regard to letter case. -/
def yields (p : Pattern) (t : Text) : Bool :=
  decide (Bare t) && (isApart p || (t.isEmpty && p.avoids ('m' :: marks)))

theorem yields_iff {p : Pattern} : yields p t = true ↔
    Bare t ∧ (isApart p = true ∨ t = [] ∧ p.avoids ('m' :: marks) = true) := by
  simp only [yields, Bool.and_eq_true, Bool.or_eq_true, decide_eq_true_eq, List.isEmpty_iff]

theorem Yields.of_yields (fold : Bool) {p : Pattern} (hp : yields p t = true) :
    Yields (p.folded fold) t := by
  intro b w r gs h
  obtain ⟨ht, hp | ⟨rfl, hc⟩⟩ := yields_iff.mp hp
  · exact .of_apart (keepsApart fold hp _ _ _ _ h) ht
  · exact .clear (avoids_folded caseClosure_marks fold hc h)

/-- The groups are those of the shape, and each stretch between them yields a new text, or
none. -/
inductive Aligned : Shape → List Slot → Prop
  | nil : Aligned [] []
  | lit : Yields p t → Aligned s slots → Aligned (.out p :: s) (.lit t :: slots)
  | drop : Yields p [] → Aligned s slots → Aligned (.out p :: s) slots
  | group : Aligned s slots → Aligned (.group i p :: s) (.group i :: slots)

/-- A check for `Aligned`, with or without regard to letter case. -/
def aligned : Shape → List Slot → Bool
  | [], [] => true
  | .out p :: s, .lit t :: slots =>
    (yields p t && aligned s slots) || (yields p [] && aligned s (.lit t :: slots))
  | .out p :: s, slots => yields p [] && aligned s slots
  | .group i _ :: s, .group j :: slots => i == j && aligned s slots
  | _, _ => false

theorem Aligned.of_aligned (fold : Bool) {s : Shape} (h : aligned s slots = true) :
    Aligned (s.folded fold) slots := by
  fun_induction aligned s slots with
  | case1 => exact .nil
  | case2 p s t slots ih ih' =>
    simp only [Bool.or_eq_true, Bool.and_eq_true] at h
    rcases h with h | h
    · exact .lit (.of_yields fold h.1) (ih h.2)
    · exact .drop (.of_yields fold h.1) (ih' h.2)
  | case3 p s slots _ ih =>
    rw [Bool.and_eq_true] at h
    exact .drop (.of_yields fold h.1) (ih h.2)
  | case4 i p s j slots ih =>
    rw [Bool.and_eq_true, beq_iff_eq] at h
    obtain ⟨rfl, h⟩ := h
    exact .group (ih h)
  | case5 => cases h

theorem Aligned.edits {s : Shape} (ha : Aligned s slots) (hf : Shape.Fits s b w r gs)
    (hg : ∀ p ∈ gs, m.group p.1 = p.2) : Edits w (fill m slots) := by
  induction ha generalizing b w gs with
  | nil =>
    rw [hf.1]
    exact .refl
  | lit hy _ ih =>
    obtain ⟨x, v, rfl, hx, h⟩ := hf
    exact (hy _ _ _ _ hx).append (ih h hg)
  | drop hy _ ih =>
    obtain ⟨x, v, rfl, hx, h⟩ := hf
    exact (hy _ _ _ _ hx).append (ih h hg)
  | @group s slots i p _ ih =>
    obtain ⟨g, v, gs, rfl, rfl, -, h⟩ := hf
    have hi : m.group i = g := hg (i, g) List.mem_cons_self
    rw [fill, hi]
    exact (ih h fun p hp => hg p (List.mem_cons_of_mem _ hp)).append_left g

/-- Whether the shape has the group, if the slot is one. -/
def Slot.isIn (s : Shape) : Slot → Bool
  | .lit _ => true
  | .group i => i == 0 || (Shape.indices s).contains i

theorem fill_filter (h : Match.Has m gs) {s : Shape} (hs : Shape.indices s = gs.map (·.1))
    (slots : List Slot) : fill m (slots.filter (Slot.isIn s)) = fill m slots := by
  induction slots with
  | nil => rfl
  | cons slot slots ih =>
    cases slot with
    | lit t => rw [List.filter_cons_of_pos rfl, fill, fill, ih]
    | group i =>
      by_cases hi : Slot.isIn s (.group i) = true
      · rw [List.filter_cons_of_pos hi, fill, fill, ih]
      · rw [List.filter_cons_of_neg hi, fill, ih]
        simp only [Slot.isIn, Bool.or_eq_true, beq_iff_eq, List.contains_iff_mem, not_or, hs] at hi
        rw [h.group_eq_nil hi.1 hi.2, List.nil_append]

/-- Whatever its shape, a match of the pattern can be made up anew from the slots. Groups that
take no part are empty. -/
def Admits (p : Pattern) (slots : List Slot) : Prop :=
  ∃ ss, p.shapes = some ss ∧ ∀ s ∈ ss,
    Aligned s (slots.filter (Slot.isIn s)) ∧ (0 :: Shape.indices s).Nodup

/-- A check for `Admits`, with or without regard to letter case. -/
def admits (p : Pattern) (slots : List Slot) : Bool :=
  match p.shapes with
  | some ss => ss.all fun s => aligned s (slots.filter (Slot.isIn s)) &&
      decide (0 :: Shape.indices s).Nodup
  | none => false

theorem admits_iff {p : Pattern} : admits p slots = true ↔ ∃ ss, p.shapes = some ss ∧ ∀ s ∈ ss,
    aligned s (slots.filter (Slot.isIn s)) = true ∧ (0 :: Shape.indices s).Nodup := by
  unfold admits
  split <;> simp_all

theorem Admits.of_admits (fold : Bool) {p : Pattern} (h : admits p slots = true) :
    Admits (p.folded fold) slots := by
  obtain ⟨ss, hs, h⟩ := admits_iff.mp h
  refine ⟨ss.map (Shape.folded fold), by rw [shapes_folded, hs]; rfl, ?_⟩
  intro s' hs'
  obtain ⟨s, hm, rfl⟩ := List.mem_map.mp hs'
  have hi : Shape.indices (s.folded fold) = Shape.indices s := Shape.indices_folded fold s
  have hslot : Slot.isIn (s.folded fold) = Slot.isIn s := by
    funext slot
    cases slot with
    | lit => rfl
    | group => rw [Slot.isIn, Slot.isIn, hi]
  rw [hi, hslot]
  exact ⟨.of_aligned fold (h s hm).1, (h s hm).2⟩

theorem Admits.gentle {p : Pattern} (h : Admits p slots) (hf : ∀ m, f m = fill m slots) :
    Gentle p f where
  edits {m b w r} ht := by
    obtain ⟨ss, hs, h⟩ := h
    obtain ⟨s, hm, gs, hfits, hg⟩ := fits_of_takes ht hs
    have hh := hg (h s hm).2
    rw [hf, ← fill_filter hh hfits.indices_eq]
    exact (h s hm).1.edits hfits fun _ hp => hh.group_eq hp

theorem gentle_of_slots {p : Pattern} {f : Match → Text} (slots : List Slot)
    (hp : admits p slots = true) (hf : ∀ m, f m = fill m slots) : Gentle p f :=
  (Admits.of_admits false hp).gentle hf

theorem gentle_caseless_of_slots {p : Pattern} {f : Match → Text} (slots : List Slot)
    (hp : admits p slots = true) (hf : ∀ m, f m = fill m slots) : Gentle p.caseless f :=
  (Admits.of_admits true hp).gentle hf

-- -----------------------------------------------------------------------------------------
-- What is known about a group
-- -----------------------------------------------------------------------------------------

/-- Wherever group `i` takes part, its pattern passes the check. -/
def groupPasses (i : Nat) (check : Pattern → Bool) (p : Pattern) : Bool :=
  match p.shapes with
  | some ss => ss.all fun s => decide (0 :: Shape.indices s).Nodup && s.all fun
      | .group j q => i != j || check q
      | .out _ => true
  | none => false

theorem group_reads (fold : Bool) {p : Pattern} (h : Takes (p.folded fold) m b w r)
    (hp : groupPasses i check p = true) (hi : i ≠ 0) (hg : m.group? i = some g) :
    ∃ q b r, check q = true ∧ (q.folded fold).Reads b g r [] := by
  unfold groupPasses at hp
  split at hp
  · rename_i ss hs
    have hs' : (p.folded fold).shapes = some (ss.map (Shape.folded fold)) := by
      rw [shapes_folded, hs]
      rfl
    obtain ⟨s', hm, gs, hf, hh⟩ := fits_of_takes h hs'
    obtain ⟨s, hs, rfl⟩ := List.mem_map.mp hm
    have hc := List.all_eq_true.mp hp s hs
    simp only [Bool.and_eq_true, decide_eq_true_eq, List.all_eq_true] at hc
    rw [Shape.indices_folded] at hh
    have hhas := hh hc.1
    have hin : i ∈ gs.map (·.1) := by
      by_contra hno
      rw [hhas.other i hi hno] at hg
      cases hg
    obtain ⟨⟨_, g'⟩, hmem, rfl⟩ := List.mem_map.mp hin
    obtain rfl : g' = g := by simpa [hhas.group _ hmem] using hg
    obtain ⟨_, b, r, hq, hr⟩ := hf.group_reads hmem
    obtain ⟨item, hitem, he⟩ := List.mem_map.mp hq
    cases item with
    | out => cases he
    | group j q =>
      cases he
      exact ⟨q, b, r, by simpa using hc.2 _ hitem, hr⟩
  · cases hp

section
variable (fold : Bool) {p : Pattern} (h : Takes (p.folded fold) m b w r) (hi : i ≠ 0)
include h hi

/-- Every group that takes no part is empty. -/
theorem group_eq_nil_or (hp : groupPasses i check p = true) :
    m.group i = [] ∨ ∃ q b r, check q = true ∧ (q.folded fold).Reads b (m.group i) r [] := by
  rw [Match.group]
  cases hg : m.group? i with
  | none => exact .inl rfl
  | some g => exact .inr (group_reads fold h hp hi hg)

theorem group_bare (hp : groupPasses i (·.avoids corners) p = true) : Bare (m.group i) := by
  rcases group_eq_nil_or fold h hi hp with hg | ⟨q, _, _, hq, hr⟩
  · exact hg ▸ bare_nil
  · exact avoids_folded caseClosure_corners fold hq hr

theorem group_apart (hp : groupPasses i isApart p = true) :
    m.group i = [] ∨ Apart (m.group i) :=
  (group_eq_nil_or fold h hi hp).imp_right fun ⟨_, _, _, hq, hr⟩ =>
    keepsApart fold hq _ _ _ _ hr

theorem group_begins (hp : groupPasses i (·.beginsOff ('m' :: marks)) p = true) :
    m.group i = [] ∨ ∃ x g, m.group i = x :: g ∧ x ∉ marks := by
  refine (group_eq_nil_or fold h hi hp).imp_right fun ⟨q, _, _, hq, hr⟩ => ?_
  cases fold with
  | true => exact hr.spells.beginsOff (beginsOff_caseless caseClosure_marks hq)
  | false =>
    obtain ⟨x, g, hg, hx⟩ := hr.spells.beginsOff hq
    exact ⟨x, g, hg, fun hm => hx (List.mem_cons_of_mem _ hm)⟩

end

end Fix

end Wikitext
