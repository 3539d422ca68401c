import Wikitext.Proofs.Pattern.Context
import Wikitext.Proofs.Text.Runs

/-!
# Phrases

A phrase stands between word boundaries, so it is read where a stretch of the runs of a text has its
form, and nowhere else. Replacing the matches of a phrase rewrites such stretches of the runs, from
the left to the right (`rewritten_of_replaces`).
-/

namespace Wikitext

open Pattern Text
open Chars (inWord)

namespace Pattern

-- -----------------------------------------------------------------------------------------
-- Words of patterns
-- -----------------------------------------------------------------------------------------

theorem Words.ne_nil {p : Pattern} (h : p.Words w) (hn : p.nullable = false) : w ≠ [] :=
  let ⟨_, h⟩ := h
  h.ne_nil hn

theorem Words.all {p : Pattern} {ok : Char → Bool} (h : p.Words w)
    (hp : ∀ c, ok c = false → p.avoids [c] = true) : ∀ c ∈ w, ok c = true :=
  let ⟨_, h⟩ := h
  h.all hp

theorem words_append {p q : Pattern} (hp : p.anchorless = true) (hq : q.anchorless = true) :
    (p ++ q).Words w ↔ ∃ u v, w = u ++ v ∧ p.Words u ∧ q.Words v := by
  constructor
  · rintro ⟨gs, h⟩
    obtain ⟨u, v, _, _, rfl, -, hu, hv⟩ := (forms_append hp hq).mp h
    exact ⟨u, v, rfl, ⟨_, hu⟩, ⟨_, hv⟩⟩
  · rintro ⟨u, v, rfl, ⟨gs, hu⟩, ⟨gs', hv⟩⟩
    exact ⟨gs' ++ gs, (forms_append hp hq).mpr ⟨u, v, gs, gs', rfl, rfl, hu, hv⟩⟩

theorem words_ofText : (ofText t).Words w ↔ w = t :=
  ⟨fun ⟨_, h⟩ => (forms_ofText.mp h).1, fun h => ⟨[], forms_ofText.mpr ⟨h, rfl⟩⟩⟩

theorem words_inOrder_cons {p : Pattern} {ps : List Pattern} (hp : p.anchorless = true)
    (hps : (inOrder ps).anchorless = true) :
    (inOrder (p :: ps)).Words w ↔ ∃ u v, w = u ++ v ∧ p.Words u ∧ (inOrder ps).Words v := by
  constructor
  · rintro ⟨gs, h⟩
    obtain ⟨u, v, _, _, rfl, -, hu, hv⟩ := (forms_inOrder_cons hp hps).mp h
    exact ⟨u, v, rfl, ⟨_, hu⟩, ⟨_, hv⟩⟩
  · rintro ⟨u, v, rfl, ⟨gs, hu⟩, ⟨gs', hv⟩⟩
    exact ⟨gs' ++ gs, (forms_inOrder_cons hp hps).mpr ⟨u, v, gs, gs', rfl, rfl, hu, hv⟩⟩

theorem words_alt {p q : Pattern} : (p <|> q).Words w ↔ p.Words w ∨ q.Words w := by
  constructor
  · rintro ⟨gs, h⟩
    exact (reads_alt_iff.mp h).imp (fun h => ⟨gs, h⟩) fun h => ⟨gs, h⟩
  · rintro (⟨gs, h⟩ | ⟨gs, h⟩)
    · exact ⟨gs, .left h⟩
    · exact ⟨gs, .right h⟩

theorem words_opt {p : Pattern} : (opt p).Words w ↔ w = [] ∨ p.Words w := by
  constructor
  · rintro ⟨gs, h⟩
    exact (forms_opt.mp h).imp (·.1) fun h => ⟨gs, h⟩
  · rintro (rfl | ⟨gs, h⟩)
    · exact ⟨[], forms_opt.mpr (.inl ⟨rfl, rfl⟩)⟩
    · exact ⟨gs, forms_opt.mpr (.inr h)⟩

theorem caseless_firstOf {p : Pattern} {ps : List Pattern} :
    (firstOf (p :: ps)).caseless = firstOf ((p :: ps).map caseless) := by
  induction ps generalizing p with
  | nil => rfl
  | cons q ps ih => exact congrArg (alt p.caseless) ih

theorem exists_of_firstOf {ps : List Pattern} (h : (firstOf ps).Reads b w r gs) :
    ∃ p ∈ ps, p.Reads b w r gs := by
  induction ps with
  | nil =>
    obtain ⟨⟩ := h
    contradiction
  | cons p ps ih =>
    cases ps with
    | nil => exact ⟨p, List.mem_cons_self, h⟩
    | cons q ps =>
      rcases reads_alt_iff.mp h with h | h
      · exact ⟨p, List.mem_cons_self, h⟩
      · obtain ⟨q', hq', h⟩ := ih h
        exact ⟨q', List.mem_cons_of_mem _ hq', h⟩

-- -----------------------------------------------------------------------------------------
-- Items between word boundaries
-- -----------------------------------------------------------------------------------------

/-- The pattern without the group. -/
def Item.pattern : Item → Pattern
  | .out p | .group _ p => p

def Item.whole : Item → Pattern
  | .out p => p
  | .group i p => Pattern.group i p

/-- One item after the other, between word boundaries. -/
def phrase (s : Shape) : Pattern := (s.map Item.whole).foldl (· ++ ·) boundary ++ boundary

/-- Nothing in the items depends on what is around it or records anything but what the item says. -/
def Shape.plain (s : Shape) : Bool := s.all fun i => i.pattern.anchorless && !i.pattern.hasGroups

/-- The texts of the items. -/
def Shape.Spells (s : Shape) (ws : List Text) : Prop :=
  List.Forall₂ (fun i w => i.pattern.Words w) s ws

/-- What the groups among the items record, the last one first. -/
def Shape.records : Shape → List Text → Groups
  | .out _ :: s, _ :: ws => records s ws
  | .group i _ :: s, w :: ws => records s ws ++ [(i, w)]
  | _, _ => []

theorem anchorless_inOrder {ps : List Pattern} (hps : ∀ p ∈ ps, p.anchorless = true) :
    (inOrder ps).anchorless = true := by
  induction ps with
  | nil => rfl
  | cons p ps ih =>
    rw [List.forall_mem_cons] at hps
    rw [inOrder_cons_anchorless, hps.1, ih hps.2, Bool.and_self]

theorem reads_foldl {ps : List Pattern} (hps : ∀ p ∈ ps, p.anchorless = true) {q : Pattern} :
    (ps.foldl (· ++ ·) q).Reads b w r gs ↔ ∃ u v gs₁ gs₂, w = u ++ v ∧ gs = gs₂ ++ gs₁ ∧
      q.Reads b u (v ++ r) gs₁ ∧ (inOrder ps).Forms v gs₂ := by
  induction ps generalizing q w gs with
  | nil =>
    constructor
    · exact fun h => ⟨w, [], gs, [], by simp, rfl, h, .empty⟩
    · rintro ⟨u, v, gs₁, gs₂, rfl, rfl, h, h'⟩
      obtain ⟨rfl, rfl⟩ := reads_empty_iff.mp h'
      simpa using h
  | cons p ps ih =>
    rw [List.forall_mem_cons] at hps
    have hinOrder := anchorless_inOrder hps.2
    rw [List.foldl_cons, ih hps.2]
    constructor
    · rintro ⟨_, v, _, gs₃, rfl, rfl, h, hv⟩
      obtain ⟨hu, hp⟩ := reads_seq_iff.mp h
      rename_i u v' gs₁ gs₂
      refine ⟨u, v' ++ v, gs₁, gs₃ ++ gs₂, by simp, by simp, by simpa using hu, ?_⟩
      exact (forms_inOrder_cons hps.1 hinOrder).mpr
        ⟨v', v, gs₂, gs₃, rfl, rfl, hp.anywhere hps.1 _ _, hv⟩
    · rintro ⟨u, _, gs₁, _, rfl, rfl, hu, h⟩
      obtain ⟨v', v, gs₂, gs₃, rfl, rfl, hp, hv⟩ := (forms_inOrder_cons hps.1 hinOrder).mp h
      refine ⟨u ++ v', v, gs₂ ++ gs₁, gs₃, by simp, by simp, ?_, hv⟩
      exact .seq (by simpa using hu) (hp.anywhere hps.1 _ _)

theorem anchorless_whole (i : Item) : i.whole.anchorless = i.pattern.anchorless := by
  cases i <;> rfl

theorem anchorless_items {s : Shape} (hs : s.plain = true) :
    ∀ p ∈ s.map Item.whole, p.anchorless = true := by
  intro p hp
  obtain ⟨i, hi, rfl⟩ := List.mem_map.mp hp
  have hplain := List.all_eq_true.mp hs i hi
  rw [Bool.and_eq_true] at hplain
  rw [anchorless_whole, hplain.1]

/-- An item by itself. -/
theorem forms_whole {i : Item} (hi : i.pattern.hasGroups = false) :
    i.whole.Forms w gs ↔ i.pattern.Words w ∧ gs = Shape.records [i] [w] := by
  cases i with
  | out p =>
    constructor
    · intro h
      exact ⟨⟨gs, h⟩, h.groups_eq_nil hi⟩
    · rintro ⟨⟨gs', h⟩, rfl⟩
      obtain rfl := h.groups_eq_nil hi
      exact h
  | group i p =>
    constructor
    · intro h
      obtain ⟨gs', rfl, h'⟩ := forms_group.mp h
      obtain rfl := h'.groups_eq_nil hi
      exact ⟨⟨[], h'⟩, rfl⟩
    · rintro ⟨⟨gs', h⟩, rfl⟩
      obtain rfl := h.groups_eq_nil hi
      exact .capture h

theorem Shape.records_cons (i : Item) (s : Shape) (w : Text) (ws : List Text) :
    records (i :: s) (w :: ws) = records s ws ++ records [i] [w] := by
  cases i <;> simp [records]

theorem forms_items {s : Shape} (hs : s.plain = true) : (inOrder (s.map Item.whole)).Forms w gs ↔
    ∃ ws, s.Spells ws ∧ w = ws.flatten ∧ gs = s.records ws := by
  induction s generalizing w gs with
  | nil =>
    constructor
    · intro h
      obtain ⟨rfl, rfl⟩ := reads_empty_iff.mp h
      exact ⟨[], .nil, rfl, rfl⟩
    · rintro ⟨ws, hws, rfl, rfl⟩
      cases hws
      exact .empty
  | cons i s ih =>
    simp only [Shape.plain, List.all_cons, Bool.and_eq_true, Bool.not_eq_true'] at hs
    obtain ⟨⟨hanchorless, hgroups⟩, hs⟩ := hs
    rw [← anchorless_whole] at hanchorless
    rw [List.map_cons, forms_inOrder_cons hanchorless (anchorless_inOrder (anchorless_items hs))]
    constructor
    · rintro ⟨w, _, _, _, rfl, rfl, hi, h⟩
      obtain ⟨hw, rfl⟩ := (forms_whole hgroups).mp hi
      obtain ⟨ws, hws, rfl, rfl⟩ := (ih hs).mp h
      exact ⟨w :: ws, .cons hw hws, rfl, (Shape.records_cons ..).symm⟩
    · rintro ⟨_, hws, rfl, rfl⟩
      cases hws with
      | @cons _ w _ ws hw hws =>
        exact ⟨w, ws.flatten, _, _, rfl, Shape.records_cons .., (forms_whole hgroups).mpr ⟨hw, rfl⟩,
          (ih hs).mpr ⟨ws, hws, rfl, rfl⟩⟩

/-- A group with items behind it. -/
theorem reads_items {s : Shape} {q : Pattern} (hs : s.plain = true) (hq : q.anchorless = true)
    (hgroups : q.hasGroups = false) :
    ((s.map Item.whole).foldl (· ++ ·) (group i q)).Reads b w r gs ↔ ∃ u ws, q.Words u ∧
      s.Spells ws ∧ w = u ++ ws.flatten ∧ gs = s.records ws ++ [(i, u)] := by
  have hfirst : ∀ {b u r gs}, (group i q).Reads b u r gs ↔ q.Words u ∧ gs = [(i, u)] := by
    intro b u r gs
    have hwhole : (Item.group i q).whole.Forms u gs ↔ q.Words u ∧ gs = [(i, u)] := forms_whole hgroups
    exact ⟨fun h => hwhole.mp (h.anywhere hq _ _), fun h => (hwhole.mpr h).anywhere hq _ _⟩
  rw [reads_foldl (anchorless_items hs)]
  constructor
  · rintro ⟨u, _, _, _, rfl, rfl, hu, hv⟩
    obtain ⟨hword, rfl⟩ := hfirst.mp hu
    obtain ⟨ws, hws, rfl, rfl⟩ := (forms_items hs).mp hv
    exact ⟨u, ws, hword, hws, rfl, rfl⟩
  · rintro ⟨u, ws, hu, hws, rfl, rfl⟩
    exact ⟨u, _, _, _, rfl, rfl, hfirst.mpr ⟨hu, rfl⟩, (forms_items hs).mpr ⟨ws, hws, rfl, rfl⟩⟩

theorem reads_phrase {s : Shape} (hs : s.plain = true) :
    (phrase s).Reads b w r gs ↔ (∃ ws, s.Spells ws ∧ w = ws.flatten ∧ gs = s.records ws) ∧
      ¬ SameKind b (w ++ r).head? ∧ ¬ SameKind (lastOf b w) r.head? := by
  have hps := anchorless_items hs
  rw [← forms_items hs]
  constructor
  · intro h
    obtain ⟨hu, hend⟩ := reads_seq_iff.mp h
    obtain ⟨_, v, _, gs', rfl, rfl, hstart, hv⟩ := (reads_foldl hps).mp hu
    obtain ⟨rfl, rfl, hb⟩ := reads_boundary.mp hstart
    obtain ⟨rfl, rfl, hr⟩ := reads_boundary.mp hend
    simpa using And.intro hv (And.intro hb hr)
  · rintro ⟨hw, hstart, hend⟩
    have hread : ((s.map Item.whole).foldl (· ++ ·) boundary).Reads b w ([] ++ r) gs :=
      (reads_foldl hps).mpr ⟨[], w, [], gs, by simp, by simp,
        reads_boundary.mpr ⟨rfl, rfl, hstart⟩, hw⟩
    have hall := Reads.seq hread (reads_boundary.mpr ⟨rfl, rfl, hend⟩)
    rwa [List.append_nil, List.nil_append] at hall

end Pattern

-- -----------------------------------------------------------------------------------------
-- Rewriting the runs of a text
-- -----------------------------------------------------------------------------------------

variable {R : List Text → List Text → Prop} {s : Shape} {f : Match → Text}

/-- Replacing what the phrase reads rewrites runs as the relation says. -/
structure Respells (s : Shape) (f : Match → Text) (R : List Text → List Text → Prop) : Prop where
  plain : s.plain = true
  reads : s.Spells ws → ∃ W W', R W W' ∧ ws.flatten = W.flatten ∧
    ∀ m : Match, m.captures.texts = s.records ws → f m = W'.flatten
  spells : R W W' → ∃ ws, s.Spells ws ∧ ws.flatten = W.flatten
  clause : R W W' → Clause W ∧ Clause W'

theorem not_sameKind_of_word (hx : inWord x = false) (hy : inWord y = true) :
    ¬ SameKind x y := by simp [SameKind, hx, hy]

/-- In front of a word that does not begin the text there is a gap. -/
theorem lastOf_of_cut (hb : inWord b = true → inWord (u ++ r).head? = false) (hc : Cut u r)
    (hr : inWord r.head? = true) : inWord (lastOf b u) = false := by
  rw [lastOf_eq]
  cases hx : u.getLast? with
  | none =>
    obtain rfl := List.getLast?_eq_none_iff.mp hx
    by_contra hword
    have hgap := hb (by simpa using hword)
    rw [List.nil_append, hr] at hgap
    cases hgap
  | some x =>
    cases hy : r.head? with
    | none => simp [hy] at hr
    | some y =>
      have hne := hc x hx y hy
      rw [hy, Chars.inWord_some] at hr
      simpa [hr] using hne

theorem head_of_cut (hc : Cut u r) (hu : inWord (lastOf none u) = true) : inWord r.head? = false := by
  rw [lastOf_eq, Option.or_none] at hu
  cases hx : u.getLast? with
  | none => simp [hx] at hu
  | some x =>
    cases hy : r.head? with
    | none => rfl
    | some y =>
      have hne := hc x hx y hy
      rw [hx, Chars.inWord_some] at hu
      simpa [hu] using hne.symm

theorem Vacant.no_stretch (hc : Vacant (phrase s) b u r) (hR : Respells s f R)
    (hb : inWord b = true → inWord (u ++ r).head? = false)
    (hruns : runs (u ++ r) = runs u ++ L) (hu : runs u = A ++ K) (hK : K ≠ [])
    (hW : K ++ L = W ++ B) : ¬ R W W' := by
  intro hrule
  have hclause := (hR.clause hrule).1
  have hall : runs (u ++ r) = A ++ (W ++ B) := by rw [hruns, hu, List.append_assoc, hW]
  have halt : Alternating (A ++ (W ++ B)) := hall ▸ alternating_runs (u ++ r)
  have htext : u ++ r = A.flatten ++ (W.flatten ++ B.flatten) := by
    rw [← flatten_runs (u ++ r), hall, List.flatten_append, List.flatten_append]
  have hutext : u = A.flatten ++ K.flatten := by
    rw [← flatten_runs u, hu, List.flatten_append]
  obtain ⟨ws, hspells, hws⟩ := hR.spells hrule
  refine hc A.flatten K.flatten W.flatten B.flatten (s.records ws) hutext ?_ ?_ ?_
  · obtain ⟨s, K, rfl⟩ := List.exists_cons_of_ne_nil hK
    obtain ⟨k, hs, -⟩ := (alternating_runs u).run s (by simp [hu])
    simp [hs]
  · rwa [hutext, List.append_assoc, List.append_cancel_left_eq] at htext
  · refine (reads_phrase hR.plain).mpr ⟨⟨ws, hspells, hws.symm, rfl⟩, ?_, ?_⟩
    · refine not_sameKind_of_word ?_ (hclause.head _)
      refine lastOf_of_cut (htext ▸ hb) ?_ (hclause.head _)
      rw [← List.flatten_append]
      exact halt.cut
    · have hbehind := head_of_cut halt.append_right.cut (hclause.lastOf none)
      exact fun hsame => not_sameKind_of_word hbehind (hclause.lastOf _) hsame.symm

theorem rewritten_of_replaces (h : Replaces (phrase s) f b t t') (hR : Respells s f R)
    (hb : inWord b = true → inWord t.head? = false) :
    Rewritten R (runs t) (runs t') ∧ (inWord t.head? = false → inWord t'.head? = false) := by
  induction h with
  | @rest b t hvacant =>
    refine ⟨?_, id⟩
    have hnone := Rewritten.keeps (R := R) (U := runs t) .nil fun A K hA hK W W' B hW =>
      hvacant.no_stretch hR (by simpa using hb) (by simp) hA hK hW
    simpa using hnone
  | @hit b u w r m r' hvacant hm _ ih =>
    obtain ⟨⟨ws, hspells, rfl, hgs⟩, hstart, hend⟩ := (reads_phrase hR.plain).mp hm.reads
    obtain ⟨W, W', hrule, hws, htext⟩ := hR.reads hspells
    rw [hws] at hvacant hstart hend hm hb ⊢
    obtain ⟨hW, hW'⟩ := hR.clause hrule
    have hu : inWord (lastOf b u) = false := by
      rw [SameKind, hW.head] at hstart
      exact Bool.eq_false_iff.mpr hstart
    have hr : inWord r.head? = false := by
      rw [SameKind, hW.lastOf] at hend
      exact Bool.eq_false_iff.mpr fun hword => hend hword.symm
    obtain ⟨hrules, hhead⟩ := ih fun _ => hr
    have hruns := hW.runs_between hu hr
    rw [htext m hgs]
    constructor
    · rw [hruns, hW'.runs_between hu (hhead hr)]
      refine Rewritten.keeps (.hit hrule hrules) fun A K hA hK V V' B hV => ?_
      exact hvacant.no_stretch hR hb hruns hA hK hV
    · cases u with
      | nil =>
        intro hgap
        rw [List.nil_append, hW.head] at hgap
        cases hgap
      | cons => exact id

theorem rewritten_apply (hR : Respells s f R) (hp : (phrase s).steady = true)
    (hn : (phrase s).nullable = false) (t : Text) :
    Rewritten R (runs t) (runs ((Fix.Replacement.of (phrase s) f).apply t)) :=
  (rewritten_of_replaces (replaces_apply hp hn f t) hR (by simp)).1

end Wikitext
