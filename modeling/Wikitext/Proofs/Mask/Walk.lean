import Mathlib.Data.Set.Card
import Wikitext.Mask.Basic
import Wikitext.Proofs.Mask.Placeholder

/-!
# The walk through a masked text

A masked text is walked through from left to right, entering a stretch where
its placeholder stands. The walk is said here without a record of what was
met: it goes round in circles if stretches name each other, and passes over
placeholders that name nothing.

`restored_restore`: restoring succeeds if and only if the walk meets every
stretch exactly once and nothing else, and then gives the expanded text;
otherwise the error is about the first placeholder that offends, or about the
number of stretches met if none does.
-/

namespace Wikitext.Mask

variable {kind : Kind} {spans : Array Text}

-- -----------------------------------------------------------------------------------------
-- The walk
-- -----------------------------------------------------------------------------------------

/-- The placeholder met first, and what there is to walk over after it. -/
def advance (kind : Kind) (spans : Array Text) : List Part → Option (Nat × List Part)
  | [] => none
  | .char _ :: ps => advance kind spans ps
  | .placeholder i :: ps => some (i, named kind spans i ++ ps)

/-- The placeholder met after `k` others, if the walk goes that far. -/
def met (kind : Kind) (spans : Array Text) (ps : List Part) : Nat → Option Nat
  | 0 => (advance kind spans ps).map (·.1)
  | k + 1 => (advance kind spans ps).bind fun next => met kind spans next.2 k

/-- The walk over `ps` meets each of the stretches once, and nothing else. -/
def MeetsEachOnce (kind : Kind) (spans : Array Text) (ps : List Part) : Prop :=
  (∀ i < spans.size, ∃! k, met kind spans ps k = some i) ∧
    ∀ k i, met kind spans ps k = some i → i < spans.size

/-- The placeholder met after `k` others names no stretch, or one that was met before. -/
def Offends (kind : Kind) (spans : Array Text) (ps : List Part) (k i : Nat) : Prop :=
  met kind spans ps k = some i ∧ (spans.size ≤ i ∨ ∃ l < k, met kind spans ps l = some i)

def FirstOffence (kind : Kind) (spans : Array Text) (ps : List Part) (k i : Nat) : Prop :=
  Offends kind spans ps k i ∧ ∀ l < k, ∀ j, ¬ Offends kind spans ps l j

/-- The error about an offending placeholder. -/
def offenceError (spans : Array Text) (i : Nat) : MaskError :=
  if spans.size ≤ i then .unknownPlaceholder (min i largestIndex) else .duplicatePlaceholder i

/-- The parts stand for the text `u`, with every placeholder replaced by what its stretch stands
for, and `is` are the placeholders met on the way. -/
inductive Expands (kind : Kind) (spans : Array Text) : List Part → List Nat → Text → Prop
  | nil : Expands kind spans [] [] []
  | char : Expands kind spans ps is u → Expands kind spans (.char c :: ps) is (c :: u)
  | placeholder : spans[i]? = some span → Expands kind spans (parts kind span) is u →
      Expands kind spans ps js v → Expands kind spans (.placeholder i :: ps) (i :: (is ++ js)) (u ++ v)

/-- What is to come out of restoring `t`. -/
structure Restored (kind : Kind) (spans : Array Text) (t : Text) (result : Except MaskError Text) :
    Prop where
  succeeds_iff : (∃ u, result = .ok u) ↔ MeetsEachOnce kind spans (parts kind t)
  expands : ∀ u, result = .ok u → ∃ is, Expands kind spans (parts kind t) is u
  refused : ¬ MeetsEachOnce kind spans (parts kind t) →
    (∃ k i, FirstOffence kind spans (parts kind t) k i ∧
      result = .error (offenceError spans i)) ∨
    ((∀ k i, ¬ Offends kind spans (parts kind t) k i) ∧
      result = .error (.placeholderMismatch spans.size
        {i | ∃ k, met kind spans (parts kind t) k = some i}.ncard))

-- -----------------------------------------------------------------------------------------
-- Steps of the walk
-- -----------------------------------------------------------------------------------------

theorem met_nil (k : Nat) : met kind spans [] k = none := by
  cases k <;> rfl

theorem met_char (c : Char) (ps : List Part) (k : Nat) :
    met kind spans (.char c :: ps) k = met kind spans ps k := by
  cases k <;> rfl

theorem met_placeholder_zero (i : Nat) (ps : List Part) :
    met kind spans (.placeholder i :: ps) 0 = some i := rfl

theorem met_placeholder_succ (h : spans[i]? = some span) (ps : List Part) (k : Nat) :
    met kind spans (.placeholder i :: ps) (k + 1) = met kind spans (parts kind span ++ ps) k := by
  simp [met, advance, named, h]

namespace Expands

theorem append (h : Expands kind spans ps is u) (h' : Expands kind spans qs js v) :
    Expands kind spans (ps ++ qs) (is ++ js) (u ++ v) := by
  induction h with
  | nil => exact h'
  | char _ ih => exact .char ih
  | placeholder hs hi _ _ ih =>
    rw [List.cons_append, List.cons_append, List.append_assoc, List.append_assoc]
    exact .placeholder hs hi ih

theorem append_inv (h : Expands kind spans (ps ++ qs) is u) :
    ∃ is₁ is₂ u₁ u₂, is = is₁ ++ is₂ ∧ u = u₁ ++ u₂ ∧ Expands kind spans ps is₁ u₁ ∧
      Expands kind spans qs is₂ u₂ := by
  induction ps generalizing is u with
  | nil => exact ⟨[], is, [], u, rfl, rfl, .nil, h⟩
  | cons p ps ih =>
    cases h with
    | char h =>
      obtain ⟨is₁, is₂, u₁, u₂, rfl, rfl, h₁, h₂⟩ := ih h
      exact ⟨is₁, is₂, _ :: u₁, u₂, rfl, rfl, .char h₁, h₂⟩
    | placeholder hs hi h =>
      obtain ⟨is₁, is₂, u₁, u₂, rfl, rfl, h₁, h₂⟩ := ih h
      exact ⟨_, is₂, _, u₂, by simp, by simp, .placeholder hs hi h₁, h₂⟩

theorem det (h : Expands kind spans ps is u) (h' : Expands kind spans ps js v) :
    is = js ∧ u = v := by
  induction h generalizing js v with
  | nil => cases h'; exact ⟨rfl, rfl⟩
  | char _ ih =>
    cases h' with
    | char h' =>
      obtain ⟨rfl, rfl⟩ := ih h'
      exact ⟨rfl, rfl⟩
  | placeholder hs _ _ ihi ih =>
    cases h' with
    | placeholder hs' hi' h' =>
      cases hs.symm.trans hs'
      obtain ⟨rfl, rfl⟩ := ihi hi'
      obtain ⟨rfl, rfl⟩ := ih h'
      exact ⟨rfl, rfl⟩

/-- A walk that comes to an end meets what the expansion lists. -/
theorem met_eq (h : Expands kind spans ps is u) (qs : List Part) :
    (∀ k < is.length, met kind spans (ps ++ qs) k = is[k]?) ∧
      ∀ k, met kind spans (ps ++ qs) (is.length + k) = met kind spans qs k := by
  induction h generalizing qs with
  | nil => simp
  | char _ ih => simpa [met_char] using ih qs
  | @placeholder i span is u ps js v hs _ _ ihi ih =>
    obtain ⟨hi₁, hi₂⟩ := ihi (ps ++ qs)
    obtain ⟨h₁, h₂⟩ := ih qs
    have hstep : ∀ k, met kind spans (.placeholder i :: ps ++ qs) (k + 1) =
        met kind spans (parts kind span ++ (ps ++ qs)) k :=
      fun k => met_placeholder_succ hs (ps ++ qs) k
    constructor
    · intro k hk
      cases k with
      | zero => rfl
      | succ k =>
        rw [hstep, List.getElem?_cons_succ]
        by_cases hlt : k < is.length
        · rw [hi₁ k hlt, List.getElem?_append_left hlt]
        · obtain ⟨l, rfl⟩ := Nat.exists_eq_add_of_le (Nat.le_of_not_lt hlt)
          simp only [List.length_cons, List.length_append] at hk
          rw [hi₂, h₁ l (by omega), List.getElem?_append_right (by omega)]
          simp
    · intro k
      have hlen : (i :: (is ++ js)).length + k = is.length + (js.length + k) + 1 := by
        simp only [List.length_cons, List.length_append]
        omega
      rw [hlen, hstep, hi₂, h₂]

theorem met_eq_getElem? (h : Expands kind spans ps is u) (k : Nat) :
    met kind spans ps k = is[k]? := by
  obtain ⟨h₁, h₂⟩ := h.met_eq []
  rw [List.append_nil] at h₁ h₂
  by_cases hk : k < is.length
  · exact h₁ k hk
  · obtain ⟨l, rfl⟩ := Nat.exists_eq_add_of_le (Nat.le_of_not_lt hk)
    rw [h₂, met_nil, List.getElem?_eq_none (by omega)]

end Expands

-- -----------------------------------------------------------------------------------------
-- Offences
-- -----------------------------------------------------------------------------------------

/-- Offending where the stretches `missing` are still to be met. -/
def Fails (kind : Kind) (spans : Array Text) (missing : List Nat) (ps : List Part) (k i : Nat) :
    Prop :=
  met kind spans ps k = some i ∧ (i ∉ missing ∨ ∃ l < k, met kind spans ps l = some i)

def FirstFails (kind : Kind) (spans : Array Text) (missing : List Nat) (ps : List Part)
    (k i : Nat) : Prop :=
  Fails kind spans missing ps k i ∧ ∀ l < k, ∀ j, ¬ Fails kind spans missing ps l j

theorem offends_iff_fails :
    Offends kind spans ps k i ↔ Fails kind spans (List.range spans.size) ps k i := by
  simp [Offends, Fails]

theorem firstOffence_iff_firstFails :
    FirstOffence kind spans ps k i ↔ FirstFails kind spans (List.range spans.size) ps k i := by
  simp [FirstOffence, FirstFails, offends_iff_fails]

variable {missing : List Nat}

theorem fails_char (c : Char) (ps : List Part) (k j : Nat) :
    Fails kind spans missing (.char c :: ps) k j ↔ Fails kind spans missing ps k j := by
  simp [Fails, met_char]

theorem not_fails_zero (hm : i ∈ missing) (ps : List Part) (j : Nat) :
    ¬ Fails kind spans missing (.placeholder i :: ps) 0 j := by
  rintro ⟨hj, h⟩
  rw [met_placeholder_zero, Option.some.injEq] at hj
  subst hj
  rcases h with h | ⟨l, hl, -⟩
  · exact h hm
  · exact Nat.not_lt_zero l hl

/-- Past the first placeholder, it is what may not be met again. -/
theorem fails_succ (hs : spans[i]? = some span) (hn : missing.Nodup) (ps : List Part)
    (k j : Nat) :
    Fails kind spans missing (.placeholder i :: ps) (k + 1) j ↔
      Fails kind spans (missing.erase i) (parts kind span ++ ps) k j := by
  simp only [Fails, met_placeholder_succ hs]
  refine and_congr_right fun _ => ?_
  have hl : (∃ l < k + 1, met kind spans (.placeholder i :: ps) l = some j) ↔
      i = j ∨ ∃ l < k, met kind spans (parts kind span ++ ps) l = some j := by
    constructor
    · rintro ⟨l, hl, h⟩
      cases l with
      | zero => exact .inl (by simpa [met_placeholder_zero] using h)
      | succ l =>
        rw [met_placeholder_succ hs] at h
        exact .inr ⟨l, by omega, h⟩
    · rintro (rfl | ⟨l, hl, h⟩)
      · exact ⟨0, by omega, met_placeholder_zero i ps⟩
      · exact ⟨l + 1, by omega, by rwa [met_placeholder_succ hs]⟩
  rw [hl, hn.mem_erase_iff]
  grind

theorem FirstFails.char (h : FirstFails kind spans missing ps k i) (c : Char) :
    FirstFails kind spans missing (.char c :: ps) k i := by
  simpa [FirstFails, fails_char] using h

theorem FirstFails.placeholder (hs : spans[i]? = some span) (hn : missing.Nodup)
    (hm : i ∈ missing)
    (h : FirstFails kind spans (missing.erase i) (parts kind span ++ ps) k j) :
    FirstFails kind spans missing (.placeholder i :: ps) (k + 1) j := by
  refine ⟨(fails_succ hs hn ps k j).mpr h.1, fun l hl j' hf => ?_⟩
  cases l with
  | zero => exact not_fails_zero hm ps j' hf
  | succ l => exact h.2 l (by omega) j' ((fails_succ hs hn ps l j').mp hf)

/-- By induction along the restoring, whose state is the list of stretches still missing. -/
theorem expand_ok (hn : missing.Nodup)
    (h : expand kind spans ps missing = .ok (u, missing')) :
    ∃ is, Expands kind spans ps is u ∧ missing.Perm (is ++ missing') := by
  fun_induction expand kind spans ps missing generalizing u with
  | case1 missing =>
    cases h
    exact ⟨[], .nil, .refl _⟩
  | case2 c rest missing ih =>
    cases he : expand kind spans rest missing with
    | error e => simp [he, bind, Except.bind] at h
    | ok r =>
      simp only [he, bind, Except.bind, pure, Except.pure, Except.ok.injEq, Prod.mk.injEq] at h
      obtain ⟨rfl, rfl⟩ := h
      obtain ⟨is, hi, hp⟩ := ih hn he
      exact ⟨is, .char hi, hp⟩
  | case3 => cases h
  | case4 i rest missing span hs hm ih =>
    obtain ⟨is, hi, hp⟩ := ih (hn.erase i) h
    obtain ⟨is₁, is₂, u₁, u₂, rfl, rfl, h₁, h₂⟩ := hi.append_inv
    refine ⟨i :: (is₁ ++ is₂), .placeholder hs h₁ h₂, ?_⟩
    exact (List.perm_cons_erase hm).trans (hp.cons i)
  | case5 => cases h

theorem expand_error (hn : missing.Nodup) (hlt : ∀ i ∈ missing, i < spans.size)
    (h : expand kind spans ps missing = .error e) :
    ∃ k i, FirstFails kind spans missing ps k i ∧ e = offenceError spans i := by
  fun_induction expand kind spans ps missing with
  | case1 => cases h
  | case2 c rest missing ih =>
    cases he : expand kind spans rest missing with
    | error e' =>
      simp only [he, bind, Except.bind, Except.error.injEq] at h
      subst h
      obtain ⟨k, i, hf, rfl⟩ := ih hn hlt he
      exact ⟨k, i, hf.char c, rfl⟩
    | ok r => simp [he, bind, Except.bind, pure, Except.pure] at h
  | case3 i rest missing hs =>
    cases h
    have hi : spans.size ≤ i := by simpa using hs
    refine ⟨0, i, ⟨⟨rfl, .inl fun hm => ?_⟩, by simp⟩, by simp [offenceError, hi]⟩
    exact absurd (hlt i hm) (by omega)
  | case4 i rest missing span hs hm ih =>
    have hlt' : ∀ j ∈ missing.erase i, j < spans.size :=
      fun j hj => hlt j (List.mem_of_mem_erase hj)
    obtain ⟨k, j, hf, rfl⟩ := ih (hn.erase i) hlt' h
    exact ⟨k + 1, j, hf.placeholder hs hn hm, rfl⟩
  | case5 i rest missing span hs hm =>
    cases h
    obtain ⟨hi, -⟩ := Array.getElem?_eq_some_iff.mp hs
    exact ⟨0, i, ⟨⟨rfl, .inl hm⟩, by simp⟩, by simp [offenceError, hi]⟩

-- -----------------------------------------------------------------------------------------
-- Walks that end without an offence
-- -----------------------------------------------------------------------------------------

section
variable (h : Expands kind spans ps is u) (hn : is.Nodup) (hlt : ∀ i ∈ is, i < spans.size)
include h hn hlt

theorem meetsEachOnce_iff : MeetsEachOnce kind spans ps ↔ ∀ i < spans.size, i ∈ is := by
  simp only [MeetsEachOnce, h.met_eq_getElem?]
  constructor
  · rintro ⟨hall, -⟩ i hi
    obtain ⟨k, hk, -⟩ := hall i hi
    exact List.mem_of_getElem? hk
  · intro hall
    refine ⟨fun i hi => ?_, fun k i hk => hlt i (List.mem_of_getElem? hk)⟩
    obtain ⟨k, hk⟩ := List.mem_iff_getElem?.mp (hall i hi)
    obtain ⟨hkl, -⟩ := List.getElem?_eq_some_iff.mp hk
    exact ⟨k, hk, fun l hl => ((List.getElem?_inj hkl hn).mp (hk.trans hl.symm)).symm⟩

theorem not_offends (k i : Nat) : ¬ Offends kind spans ps k i := by
  simp only [Offends, h.met_eq_getElem?]
  rintro ⟨hk, hi | ⟨l, hl, hl'⟩⟩
  · exact absurd (hlt i (List.mem_of_getElem? hk)) (by omega)
  · obtain ⟨hkl, -⟩ := List.getElem?_eq_some_iff.mp hl'
    have := (List.getElem?_inj hkl hn).mp (hl'.trans hk.symm)
    omega

omit hlt in
theorem ncard_met : {i | ∃ k, met kind spans ps k = some i}.ncard = is.length := by
  have hset : {i | ∃ k, met kind spans ps k = some i} = (is.toFinset : Set Nat) := by
    ext i
    simp [h.met_eq_getElem?, List.mem_iff_getElem?]
  rw [hset, Set.ncard_coe_finset, List.toFinset_card_of_nodup hn]

end

/-- A walk with an offence does not meet every stretch once and nothing else. -/
theorem Offends.not_meetsEachOnce (h : Offends kind spans ps k i) :
    ¬ MeetsEachOnce kind spans ps := by
  rintro ⟨hall, hlt⟩
  obtain ⟨hk, hi | ⟨l, hl, hl'⟩⟩ := h
  · exact absurd (hlt k i hk) (by omega)
  · have := (hall i (hlt k i hk)).unique hk hl'
    omega

section
variable {t : Text}

theorem Restored.of_error
    (he : expand kind spans (parts kind t) (List.range spans.size) = .error e) :
    Restored kind spans t (.error e) := by
  obtain ⟨k, i, hf, rfl⟩ := expand_error List.nodup_range (by simp) he
  replace hf := firstOffence_iff_firstFails.mpr hf
  constructor
  · simpa using hf.1.not_meetsEachOnce
  · simp
  · exact fun _ => .inl ⟨k, i, hf, rfl⟩

theorem Restored.of_none_missing
    (he : expand kind spans (parts kind t) (List.range spans.size) = .ok (u, [])) :
    Restored kind spans t (.ok u) := by
  obtain ⟨is, hi, hp⟩ := expand_ok List.nodup_range he
  rw [List.append_nil] at hp
  have hlt : ∀ i ∈ is, i < spans.size := fun i h => List.mem_range.mp (hp.mem_iff.mpr h)
  have hall : ∀ i < spans.size, i ∈ is := fun i h => hp.mem_iff.mp (List.mem_range.mpr h)
  have honce := (meetsEachOnce_iff hi (hp.nodup_iff.mp List.nodup_range) hlt).mpr hall
  constructor
  · simpa using honce
  · rintro v ⟨⟩
    exact ⟨is, hi⟩
  · exact fun h => absurd honce h

theorem Restored.of_missing
    (he : expand kind spans (parts kind t) (List.range spans.size) = .ok (u, i :: missing)) :
    Restored kind spans t
      (.error (.placeholderMismatch spans.size (spans.size - (i :: missing).length))) := by
  obtain ⟨is, hi, hp⟩ := expand_ok List.nodup_range he
  obtain ⟨hn, -, hdisjoint⟩ := List.nodup_append.mp (hp.nodup_iff.mp List.nodup_range)
  have hlt : ∀ j ∈ is, j < spans.size := fun j hj =>
    List.mem_range.mp (hp.mem_iff.mpr (List.mem_append_left _ hj))
  have hcount : spans.size - (i :: missing).length = is.length := by
    have hlength := hp.length_eq
    rw [List.length_range, List.length_append] at hlength
    omega
  have hnot : ¬ MeetsEachOnce kind spans (parts kind t) := fun h => by
    have hbound : i < spans.size := List.mem_range.mp (hp.mem_iff.mpr (by simp))
    have hmem := (meetsEachOnce_iff hi hn hlt).mp h i hbound
    exact hdisjoint i hmem i List.mem_cons_self rfl
  constructor
  · simpa using hnot
  · simp
  · refine fun _ => .inr ⟨not_offends hi hn hlt, ?_⟩
    rw [ncard_met hi hn, hcount]

end

theorem restored_restore (kind : Kind) (spans : Array Text) (t : Text) :
    Restored kind spans t (restore kind spans t) := by
  unfold restore
  cases he : expand kind spans (parts kind t) (List.range spans.size) with
  | error e => exact .of_error he
  | ok r =>
    obtain ⟨u, missing⟩ := r
    cases missing with
    | nil => exact .of_none_missing he
    | cons i missing => exact .of_missing he

/-- A walk that meets every stretch once restores what it expands to. -/
theorem restore_eq_ok (h : Expands kind spans (parts kind t) is u)
    (hp : is.Perm (List.range spans.size)) : restore kind spans t = .ok u := by
  have hr := restored_restore kind spans t
  have honce : MeetsEachOnce kind spans (parts kind t) := by
    refine (meetsEachOnce_iff h (hp.nodup_iff.mpr List.nodup_range) ?_).mpr ?_
    · exact fun i hi => List.mem_range.mp (hp.mem_iff.mp hi)
    · exact fun i hi => hp.mem_iff.mpr (List.mem_range.mpr hi)
  obtain ⟨v, hv⟩ := hr.succeeds_iff.mpr honce
  obtain ⟨js, hj⟩ := hr.expands v hv
  rw [hv, (h.det hj).2]

/-- Adding back, of either kind, gives what the walk through the text says, and forgets the
stretches in any case. -/
theorem addBack_restored (m : Mask) (t : Text) :
    (Restored .plain m.plain t (m.addBack t).1 ∧ (m.addBack t).2 = { m with plain := #[] }) ∧
      Restored .broad m.broad t (m.addBackMore t).1 ∧
        (m.addBackMore t).2 = { m with broad := #[] } :=
  ⟨⟨restored_restore .plain m.plain t, rfl⟩, restored_restore .broad m.broad t, rfl⟩

end Wikitext.Mask
