import Wikitext.Proofs.Mask.Walk

/-!
# Regions that are put back

A masked text can be edited before the stretches are put back. The regions are
the stretches named in the masked text itself, with all that is hidden in them.
Restored, they stand in the text each in a place of its own
(`standIn_restore`), and if the stretches can be put back into two texts, the
same regions come back into both, in some order (`perm_regions`).

Restoring only looks at which stretches the whole walk meets. The stretches met
are those named at the top and those named in a stretch met
(`Expands.perm_named`), so two walks that meet the same ones have the same ones
at the top.
-/

namespace Wikitext.Mask

-- -----------------------------------------------------------------------------------------
-- The regions of a masked text
-- -----------------------------------------------------------------------------------------

/-- The numbers of the placeholders among the parts. -/
def numbers : List Part → List Nat
  | [] => []
  | .char _ :: ps => numbers ps
  | .placeholder i :: ps => i :: numbers ps

/-- Stretch `i` with all that is hidden in it. -/
def region? (kind : Kind) (spans : Array Text) (i : Nat) : Option Text :=
  match expand kind spans [.placeholder i] (List.range spans.size) with
  | .ok (w, _) => some w
  | .error _ => none

/-- The regions hidden from a text, in the order of their placeholders. -/
def regions (kind : Kind) (spans : Array Text) (t : Text) : List Text :=
  (numbers (parts kind t)).filterMap (region? kind spans)

/-- The texts stand in `t` one after the other, without overlap. -/
def StandIn : List Text → Text → Prop
  | [], _ => True
  | w :: ws, t => ∃ u v, t = u ++ (w ++ v) ∧ StandIn ws v

/-- Tries every place for the first text. -/
def standIn (ws : List Text) (t : Text) : Bool :=
  match ws with
  | [] => true
  | w :: ws => t.tails.any fun s =>
    match Text.dropPrefix? w s with
    | some v => standIn ws v
    | none => false

theorem standIn_iff : standIn ws t = true ↔ StandIn ws t := by
  induction ws generalizing t with
  | nil => simp [standIn, StandIn]
  | cons w ws ih =>
    simp only [standIn, StandIn, List.any_eq_true, List.mem_tails]
    constructor
    · rintro ⟨s, ⟨u, rfl⟩, hs⟩
      split at hs
      · rename_i v hv
        exact ⟨u, v, by rw [Text.dropPrefix?_eq_some.mp hv], ih.mp hs⟩
      · cases hs
    · rintro ⟨u, v, rfl, hv⟩
      refine ⟨w ++ v, List.suffix_append _ _, ?_⟩
      rw [Text.dropPrefix?_eq_some.mpr rfl]
      exact ih.mpr hv

instance (ws : List Text) (t : Text) : Decidable (StandIn ws t) :=
  decidable_of_iff _ standIn_iff

theorem StandIn.append_left (h : StandIn ws t) (u : Text) : StandIn ws (u ++ t) := by
  cases ws with
  | nil => trivial
  | cons w ws =>
    obtain ⟨v, v', rfl, hv⟩ := h
    exact ⟨u ++ v, v', by simp, hv⟩

-- -----------------------------------------------------------------------------------------
-- What a walk meets
-- -----------------------------------------------------------------------------------------

variable {kind : Kind} {spans : Array Text}

theorem Expands.perm_named (h : Expands kind spans ps is u) :
    is.Perm (numbers ps ++ is.flatMap fun i => numbers (named kind spans i)) := by
  induction h with
  | nil => exact .refl _
  | char _ ih => exact ih
  | @placeholder i span is u ps js v hs _ _ ihi ih =>
    have hn : named kind spans i = parts kind span := by simp [named, hs]
    rw [List.flatMap_cons, List.flatMap_append, hn, numbers, List.cons_append]
    refine ((ihi.append ih).trans ?_).cons i
    rw [List.append_assoc]
    exact ((List.perm_append_comm_assoc _ _ _).append_left _).trans
      (List.perm_append_comm_assoc _ _ _)

/-- Two walks that meet the same stretches have the same ones at the top. -/
theorem Expands.perm_numbers (h : Expands kind spans ps is u) (h' : Expands kind spans qs js v)
    (hp : js.Perm is) : (numbers qs).Perm (numbers ps) := by
  have hflat := hp.flatMap_right fun i => numbers (named kind spans i)
  have hall := (h'.perm_named.symm.trans hp).trans h.perm_named
  exact (List.perm_append_right_iff _).mp (hall.trans (hflat.symm.append_left _))

theorem Expands.expand_eq (h : Expands kind spans ps is u) (hn : is.Nodup)
    (hlt : ∀ i ∈ is, i < spans.size) :
    ∃ missing, expand kind spans ps (List.range spans.size) = .ok (u, missing) := by
  cases he : expand kind spans ps (List.range spans.size) with
  | error e =>
    obtain ⟨k, i, hf, -⟩ := expand_error List.nodup_range (fun i hi => List.mem_range.mp hi) he
    exact absurd (offends_iff_fails.mpr hf.1) (not_offends h hn hlt k i)
  | ok r =>
    obtain ⟨js, hj, -⟩ := expand_ok List.nodup_range he
    obtain ⟨-, rfl⟩ := hj.det h
    exact ⟨r.2, rfl⟩

theorem Expands.region?_eq (h : Expands kind spans [.placeholder i] is u) (hn : is.Nodup)
    (hlt : ∀ j ∈ is, j < spans.size) : region? kind spans i = some u := by
  obtain ⟨missing, he⟩ := h.expand_eq hn hlt
  rw [region?, he]

/-- By induction on the walk. Each region stands where its placeholder stood. -/
theorem Expands.standIn (h : Expands kind spans ps is u) (hn : is.Nodup)
    (hlt : ∀ i ∈ is, i < spans.size) :
    StandIn ((numbers ps).filterMap (region? kind spans)) u := by
  induction h with
  | nil => trivial
  | @char ps is u c _ ih => exact (ih hn hlt).append_left [c]
  | @placeholder i span is u ps js v hs hi _ _ ih =>
    have htop : Expands kind spans [.placeholder i] (i :: is) u := by
      have htop := Expands.placeholder hs hi .nil
      rwa [List.append_nil, List.append_nil] at htop
    have hsplit : (i :: is).Nodup ∧ js.Nodup := by
      rw [← List.cons_append, List.nodup_append] at hn
      exact ⟨hn.1, hn.2.1⟩
    have hr := htop.region?_eq hsplit.1 fun j hj => hlt j (by
      rw [← List.cons_append]
      exact List.mem_append_left _ hj)
    rw [numbers, List.filterMap_cons_some hr]
    exact ⟨[], v, rfl, ih hsplit.2 fun j hj => hlt j (by simp [hj])⟩

-- -----------------------------------------------------------------------------------------
-- Putting back
-- -----------------------------------------------------------------------------------------

/-- A text that can be restored is walked through with every stretch met once. -/
theorem expands_of_restore (h : restore kind spans t = .ok u) :
    ∃ is, Expands kind spans (parts kind t) is u ∧ is.Perm (List.range spans.size) := by
  unfold restore at h
  cases he : expand kind spans (parts kind t) (List.range spans.size) with
  | error e => simp [he, bind, Except.bind] at h
  | ok r =>
    obtain ⟨v, missing⟩ := r
    obtain ⟨is, hi, hp⟩ := expand_ok List.nodup_range he
    simp only [he, bind, Except.bind] at h
    split at h
    · rename_i hm
      cases h
      rw [List.isEmpty_iff.mp hm, List.append_nil] at hp
      exact ⟨is, hi, hp.symm⟩
    · cases h

theorem standIn_restore (h : restore kind spans t = .ok u) : StandIn (regions kind spans t) u := by
  obtain ⟨is, hi, hp⟩ := expands_of_restore h
  exact hi.standIn (hp.nodup_iff.mpr List.nodup_range) fun i hm =>
    List.mem_range.mp (hp.mem_iff.mp hm)

/-- The stretches of one store come back as the same regions, whatever text they are put into. -/
theorem perm_regions (h : restore kind spans t = .ok u) (h' : restore kind spans t' = .ok u') :
    (regions kind spans t').Perm (regions kind spans t) := by
  obtain ⟨is, hi, hp⟩ := expands_of_restore h
  obtain ⟨js, hj, hp'⟩ := expands_of_restore h'
  exact (hi.perm_numbers hj (hp'.trans hp.symm)).filterMap _

end Wikitext.Mask
