import Wikitext.Proofs.Mask.Pass
import Wikitext.Proofs.Pattern.Context

/-!
# Texts under two masks

What two masks leave of a text is alike if it differs in the kind of the placeholders only (`Alike`). A
pattern that does not tell placeholders of one kind from those of the other (`Impartial`) has its
matches in such texts in the same places (`Searched.alike`), so a pass that hides them makes two texts
of which all that is visible and all that is hidden is alike again (`AlikeHidden.hide`).
-/

namespace Wikitext

open Pattern

namespace Mask

-- -----------------------------------------------------------------------------------------
-- Texts and their parts
-- -----------------------------------------------------------------------------------------

theorem exists_of_parts_append (h : parts kind t = ps ++ qs) :
    ∃ u v, t = u ++ v ∧ parts kind u = ps ∧ parts kind v = qs := by
  induction t using parts.induct kind generalizing ps with
  | case1 =>
    rw [parts_nil] at h
    obtain ⟨rfl, rfl⟩ := List.append_eq_nil_iff.mp h.symm
    exact ⟨[], [], rfl, parts_nil, parts_nil⟩
  | case2 c cs i rest hr ih =>
    cases ps with
    | nil => exact ⟨[], c :: cs, rfl, parts_nil, h⟩
    | cons p ps =>
      rw [parts_of_read hr, List.cons_append] at h
      obtain ⟨rfl, hrest⟩ := List.cons.inj h
      obtain ⟨u, v, rfl, hu, hv⟩ := ih hrest
      obtain ⟨ds, hi, ht, rfl⟩ := readPlaceholder?_eq_some hr
      refine ⟨written kind ds ++ u, v, ?_, ?_, hv⟩
      · rw [ht, List.append_assoc]
      · rw [parts_written kind hi, hu]
  | case3 c cs hr ih =>
    cases ps with
    | nil => exact ⟨[], c :: cs, rfl, parts_nil, h⟩
    | cons p ps =>
      rw [parts_of_not_read hr, List.cons_append] at h
      obtain ⟨rfl, hrest⟩ := List.cons.inj h
      obtain ⟨u, v, rfl, hu, hv⟩ := ih hrest
      exact ⟨c :: u, v, rfl, by rw [parts_of_not_read (readPlaceholder?_of_append hr), hu], hv⟩

theorem mem_of_char_mem_parts (h : .char c ∈ parts kind t) : c ∈ t := by
  induction t using parts.induct kind with
  | case1 => simp at h
  | case2 d cs i rest hr ih =>
    obtain ⟨ds, -, ht, -⟩ := readPlaceholder?_eq_some hr
    rw [parts_of_read hr] at h
    rw [ht]
    exact List.mem_append_right _ (ih ((List.mem_cons.mp h).resolve_left (by simp)))
  | case3 d cs hr ih =>
    rw [parts_of_not_read hr, List.mem_cons, Part.char.injEq] at h
    exact List.mem_cons.mpr (h.imp_right ih)

theorem mem_parts_or_marks (kind : Kind) (h : c ∈ t) : .char c ∈ parts kind t ∨ c ∈ marks := by
  induction t using parts.induct kind with
  | case1 => cases h
  | case2 d cs i rest hr ih =>
    obtain ⟨ds, hi, ht, -⟩ := readPlaceholder?_eq_some hr
    rw [ht] at h
    rw [parts_of_read hr]
    rcases List.mem_append.mp h with h | h
    · exact .inr (mem_marks_of_mem_written hi h)
    · exact (ih h).imp_left (List.mem_cons_of_mem _)
  | case3 d cs hr ih =>
    rw [parts_of_not_read hr]
    rcases List.mem_cons.mp h with rfl | h
    · exact .inl List.mem_cons_self
    · exact (ih h).imp_left (List.mem_cons_of_mem _)

theorem eq_of_parts_eq_map (h : parts kind t = x.map .char) : t = x := by
  induction t using parts.induct kind generalizing x with
  | case1 =>
    rw [parts_nil] at h
    exact (List.map_eq_nil_iff.mp h.symm).symm
  | case2 c cs i rest hr =>
    rw [parts_of_read hr] at h
    cases x <;> cases h
  | case3 c cs hr ih =>
    rw [parts_of_not_read hr] at h
    cases x with
    | nil => cases h
    | cons d x =>
      obtain ⟨hd, h⟩ := List.cons.inj h
      rw [Part.char.inj hd, ih h]

/-- A placeholder is read like its first character. -/
theorem head?_eq_of_parts (kind : Kind) (t : Text) : t.head? = (parts kind t).head?.map fun
    | .char c => c
    | .placeholder _ => '⌊' := by
  cases t with
  | nil => simp
  | cons c cs =>
    cases hr : readPlaceholder? kind (c :: cs) with
    | none => simp [parts_of_not_read hr]
    | some r =>
      obtain ⟨ds, hi, ht, -⟩ := readPlaceholder?_eq_some hr
      obtain ⟨x, tail, hds, -⟩ := written_eq kind hi
      rw [parts_of_read hr, ht, hds]
      rfl

-- -----------------------------------------------------------------------------------------
-- Texts that are alike
-- -----------------------------------------------------------------------------------------

/-- The texts differ in the kind of their placeholders only. -/
def Alike (k k' : Kind) (t t' : Text) : Prop := parts k t = parts k' t'

/-- No placeholder lies across the border of the texts, of whatever kind. -/
def Parted (u v : Text) : Prop := ∀ kind, parts kind (u ++ v) = parts kind u ++ parts kind v

theorem Border.parted (h : Border u v) : Parted u v := fun _ => parts_append h.not_straddles

theorem Bare.parted (h : Bare u) (v : Text) : Parted u v := fun _ => h.clean.parts_append v

namespace Alike

variable {k k' : Kind}

theorem refl (h : ¬ Contains k t) (h' : ¬ Contains k' t) : Alike k k' t t := by
  rw [Alike, parts_eq_map h, parts_eq_map h']

theorem nil : Alike k k' [] [] := parts_nil.trans parts_nil.symm

protected theorem symm (h : Alike k k' t t') : Alike k' k t' t := Eq.symm h

theorem append (hu : Alike k k' u u') (hv : Alike k k' v v') (h : Parted u v) (h' : Parted u' v') :
    Alike k k' (u ++ v) (u' ++ v') := by
  rw [Alike, h k, h' k', hu, hv]

theorem placeholder (hu : Alike k k' u u') (hv : Alike k k' v v') (i : Nat) :
    Alike k k' (u ++ (placeholder k i ++ v)) (u' ++ (Mask.placeholder k' i ++ v')) := by
  rw [Alike, parts_append_placeholder, parts_append_placeholder, hu, hv]

theorem split (h : Alike k k' (u ++ v) t') (hcut : Parted u v) :
    ∃ u' v', t' = u' ++ v' ∧ Alike k k' u u' ∧ Alike k k' v v' := by
  rw [Alike, hcut k] at h
  obtain ⟨u', v', rfl, hu, hv⟩ := exists_of_parts_append h.symm
  exact ⟨u', v', rfl, hu.symm, hv.symm⟩

theorem head?_eq (h : Alike k k' t t') : t.head? = t'.head? := by
  rw [head?_eq_of_parts k, head?_eq_of_parts k', h]

theorem eq_of_bare (h : Alike k k' t t') (ht : Bare t) : t' = t := by
  rw [Alike, ht.parts_eq] at h
  exact eq_of_parts_eq_map h.symm

theorem ne_nil (h : Alike k k' t t') (ht : t ≠ []) : t' ≠ [] := by
  rintro rfl
  exact ht (h.symm.eq_of_bare bare_nil)

theorem forall_mem {ok : Char → Prop} (h : Alike k k' t t') (hmarks : ∀ c ∈ marks, ok c)
    (ht : ∀ c ∈ t, ok c) : ∀ c ∈ t', ok c := by
  intro c hc
  rcases mem_parts_or_marks k' hc with hc | hc
  · rw [← h] at hc
    exact ht c (mem_of_char_mem_parts hc)
  · exact hmarks c hc

/-- Behind a text without corner brackets. -/
theorem behind (h : Alike k k' (u ++ v) t') (hu : Bare u) : ∃ v', t' = u ++ v' ∧ Alike k k' v v' := by
  obtain ⟨u', v', rfl, hu', hv⟩ := h.split (hu.parted v)
  exact ⟨v', by rw [hu'.eq_of_bare hu], hv⟩

end Alike

-- -----------------------------------------------------------------------------------------
-- Patterns that do not see the kind
-- -----------------------------------------------------------------------------------------

/-- The pattern finds the same in texts that are alike. It settles at no place in two ways. -/
structure Impartial (p : Pattern) : Prop extends p.Lexical where
  beginsOff : p.beginsOff marks = true
  settlesOff : p.settlesOff marks = true
  occurs : ∀ {k k' w r t}, p.Words w → Alike k k' (w ++ r) t → ∃ w' r', t = w' ++ r' ∧ p.Words w'
  settles : ∀ {k k' b b' w w' r r'}, p.Settles b w r → Alike k k' w w' → Alike k k' r r' →
    p.Settles b' w' r'
  unique : ∀ {b b' w w' r r'}, p.Settles b w r → p.Settles b' w' r' → w ++ r = w' ++ r' → w = w'

variable {p : Pattern} {k k' : Kind}

/-- A word begins with nothing that could belong to a placeholder. -/
theorem Impartial.head (hp : Impartial p) (hw : p.Words w) : ∀ x ∈ w.head?, x ∉ marks := by
  obtain ⟨gs, hreads⟩ := hw
  obtain ⟨x, w, rfl, hx⟩ := hreads.spells.beginsOff hp.beginsOff
  simpa using hx

theorem Impartial.border (hp : Impartial p) (hw : p.Words w) (u r : Text) : Border u (w ++ r) := by
  refine .inr fun x hx => ?_
  rw [List.head?_append_of_ne_nil w (hp.ne_nil w hw)] at hx
  exact hp.head hw x hx

/-- Nothing begins in a text if nothing does in one that is alike. -/
theorem vacant_of_alike (hp : Impartial p) (h : Vacant p b u r) (hu : Alike k k' u u')
    (hr : Alike k k' r r') (hhead : ∀ x ∈ r.head?, x ∉ marks) (b' : Option Char) : Vacant p b' u' r' := by
  rintro a' g' w' s' gs rfl hg hw hreads
  have hword : p.Words w' := ⟨gs, hreads.anywhere hp.anchorless _ _⟩
  have hborder : Border a' g' := border_left (hw ▸ hp.border hword a' s')
  obtain ⟨a, g, rfl, -, hg'⟩ := hu.symm.split hborder.parted
  have hhead' : ∀ x ∈ r'.head?, x ∉ marks := fun x hx => hhead x (hr.head?_eq ▸ hx)
  have hall := hg'.append hr.symm (Border.parted (.inr hhead')) (Border.parted (.inr hhead))
  obtain ⟨w, s, hws, gs', hw⟩ := hp.occurs hword (hw ▸ hall)
  exact h a g w s gs' rfl (hg'.ne_nil hg) hws (hw.anywhere hp.anchorless _ _)

/-- What a search has found in two texts is alike, and so is what stands around it. -/
inductive Agree (k k' : Kind) : List (Text × Match) → Text → List (Text × Match) → Text → Prop
  | rest : Alike k k' u u' → Agree k k' [] u [] u'
  | hit : Alike k k' u u' → Alike k k' m.text m'.text → Agree k k' found tail found' tail' →
      Agree k k' ((u, m) :: found) tail ((u', m') :: found') tail'

/-- By induction on what is found in the one text: nothing can be found before it in the other one, and
what is found there cannot end elsewhere. -/
theorem agree_of_searched {found : List (Text × Match)} (hp : Impartial p)
    (h : Searched p b t found tail) (h' : Searched p b' t' found' tail') (ha : Alike k k' t t') :
    Agree k k' found tail found' tail' := by
  have hnowhere : ∀ {b t}, Vacant p b t [] → ∀ {u w r}, t = u ++ (w ++ r) → ¬ p.Words w :=
    fun hvacant _ _ _ ht ⟨gs, hw⟩ =>
      (vacant_iff hp.nullable).mp hvacant _ _ _ gs ht (hw.anywhere hp.anchorless _ _)
  induction h generalizing b' t' found' with
  | rest hvacant =>
    have hvacant' := vacant_of_alike hp hvacant ha .nil (by simp) b'
    cases h' with
    | rest => exact .rest ha
    | hit _ hm _ => exact absurd (hm.settles.words hp.anchorless) (hnowhere hvacant' rfl)
  | @hit b u w r m found tail hvacant hm hrest ih =>
    have hw := hm.settles.words hp.anchorless
    obtain ⟨a, _, rfl, hu, hwr⟩ := ha.split (hp.border hw u r).parted
    have hhead : ∀ x ∈ (w ++ r).head?, x ∉ marks := by
      rw [List.head?_append_of_ne_nil w (hp.ne_nil w hw)]
      exact hp.head hw
    have hvacant' := vacant_of_alike hp hvacant hu hwr hhead b'
    obtain ⟨c, d, rfl, hc, hd⟩ := hwr.split (Border.parted (hm.settles.settlesOff hp.settlesOff))
    have hsettles : p.Settles (lastOf b' a) c d := hp.settles hm.settles hc hd
    generalize ht : a ++ (c ++ d) = t' at h'
    cases h' with
    | rest hvacant₂ => exact absurd (hsettles.words hp.anchorless) (hnowhere hvacant₂ ht.symm)
    | hit hvacant₂ hm' hrest' =>
      obtain ⟨gs, hreads⟩ := hsettles.spells.exists_reads
      obtain rfl := hvacant'.eq_of_reads hvacant₂ hreads hm'.reads ht
      have hcd := List.append_cancel_left ht
      obtain rfl := hp.unique hsettles hm'.settles hcd
      obtain rfl := List.append_cancel_left hcd
      exact .hit hu (by rwa [hm.text, hm'.text]) (ih hrest' hd)

-- -----------------------------------------------------------------------------------------
-- Passes over two texts
-- -----------------------------------------------------------------------------------------

theorem Agree.masked {found : List (Text × Match)} (h : Agree k k' found tail found' tail') (n : Nat) :
    Alike k k' (masked k n (piecesOf found tail)) (Mask.masked k' n (piecesOf found' tail')) := by
  induction h generalizing n with
  | rest hu => rwa [masked_piecesOf_nil, masked_piecesOf_nil]
  | hit hu _ _ ih =>
    rw [masked_piecesOf_cons, masked_piecesOf_cons]
    exact hu.placeholder (ih (n + 1)) n

theorem Agree.spans {found : List (Text × Match)} (h : Agree k k' found tail found' tail') :
    List.Forall₂ (Alike k k') (found.map (·.2.text)) (found'.map (·.2.text)) := by
  induction h with
  | rest => exact .nil
  | hit _ hm _ ih => exact .cons hm ih

/-- Two masks leave the same and have hidden the same. -/
structure AlikeHidden (k k' : Kind) (s s' : Hidden) : Prop where
  text : Alike k k' s.text s'.text
  spans : List.Forall₂ (Alike k k') s.spans.toList s'.spans.toList

theorem alikeHidden_of_agree {found : List (Text × Match)} {p : Pattern} {s s' : Hidden}
    (h : List.Forall₂ (Alike k k') s.spans.toList s'.spans.toList)
    (hpieces : p.compile.pieces s.text = piecesOf found tail)
    (hpieces' : p.compile.pieces s'.text = piecesOf found' tail')
    (ha : Agree k k' found tail found' tail') :
    AlikeHidden k k' (s.hide k p.compile) (s'.hide k' p.compile) := by
  have hsize : s.spans.size = s'.spans.size := h.length_eq
  constructor
  · rw [Hidden.text_hide, Hidden.text_hide, hpieces, hpieces', hsize]
    exact ha.masked _
  · rw [Hidden.spans_hide, Hidden.spans_hide, matches_of_pieces hpieces, matches_of_pieces hpieces',
      Array.toList_append, Array.toList_append, List.map_map, List.map_map]
    exact List.rel_append h ha.spans

theorem AlikeHidden.hide {s s' : Hidden} (h : AlikeHidden k k' s s') (hp : Impartial p) :
    AlikeHidden k k' (s.hide k p.compile) (s'.hide k' p.compile) := by
  obtain ⟨found, tail, hsearched, hpieces⟩ := exists_searched hp.steady hp.nullable s.text
  obtain ⟨found', tail', hsearched', hpieces'⟩ := exists_searched hp.steady hp.nullable s'.text
  exact alikeHidden_of_agree h.spans hpieces hpieces' (agree_of_searched hp hsearched hsearched' h.text)

/-- A text without placeholders is alike to itself, and so is what any pass leaves of it. -/
theorem agree_self {found : List (Text × Match)} (h : Searched p b t found tail)
    (ht : ¬ Contains k t) (ht' : ¬ Contains k' t) : Agree k k' found tail found tail := by
  have hself : ∀ {w t}, ¬ Contains k t → ¬ Contains k' t → w <:+: t → Alike k k' w w :=
    fun ht ht' hin => .refl (fun h => ht (h.of_infix hin)) fun h => ht' (h.of_infix hin)
  induction h with
  | rest => exact .rest (hself ht ht' List.infix_rfl)
  | @hit b u w r m found tail _ hm _ ih =>
    have hrest : r <:+: u ++ (w ++ r) := ((List.suffix_append w r).trans (List.suffix_append u _)).isInfix
    refine .hit (hself ht ht' (List.prefix_append u _).isInfix) ?_
      (ih (fun h => ht (h.of_infix hrest)) fun h => ht' (h.of_infix hrest))
    rw [hm.text]
    exact hself ht ht' ((List.prefix_append w r).isInfix.trans (List.suffix_append u _).isInfix)

theorem alikeHidden_first (hp : p.steady = true) (hn : p.nullable = false) (ht : ¬ Contains k t)
    (ht' : ¬ Contains k' t) :
    AlikeHidden k k' (Hidden.hide k p.compile ⟨t, #[]⟩) (Hidden.hide k' p.compile ⟨t, #[]⟩) := by
  obtain ⟨found, tail, hsearched, hpieces⟩ := exists_searched hp hn t
  exact alikeHidden_of_agree .nil hpieces hpieces (agree_self hsearched ht ht')

end Mask

end Wikitext
