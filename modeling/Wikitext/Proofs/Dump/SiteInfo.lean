import Wikitext.Dump.Pages
import Wikitext.Proofs.Text.Basic

/-!
# Tables of namespaces

The numbers in a table of namespaces ascend, whatever a dump sets and in which order
(`Dump.ordered_read`). So a table does not depend on the order of its entries
(`setNamespaces_eq`), and of two names for one number the last one stays
(`setNamespace_setNamespace`).
-/

namespace Wikitext

namespace SiteInfo

variable {info : SiteInfo} {id : Int}

/-- The numbers of the namespaces ascend, so each of them stands there once. -/
def Ordered (info : SiteInfo) : Prop := info.namespaces.Pairwise (·.1 < ·.1)

instance (info : SiteInfo) : Decidable info.Ordered :=
  inferInstanceAs (Decidable (info.namespaces.Pairwise (·.1 < ·.1)))

theorem ordered_empty (database : Text) : Ordered { database } := List.Pairwise.nil

theorem namespaces_setNamespace (info : SiteInfo) (id : Int) (name : Text) :
    (info.setNamespace id name).namespaces = info.namespaces.takeWhile (·.1 < id) ++
      (id, name) :: (info.namespaces.dropWhile (·.1 < id)).dropWhile (·.1 == id) := by
  simp only [setNamespace, Text.drop_takeWhile]

/-- In ascending order everything behind the numbers below `id` is `id` or above it. -/
theorem le_of_mem_dropWhile {l : List (Int × Text)} (h : l.Pairwise (·.1 < ·.1))
    (hx : x ∈ l.dropWhile (·.1 < id)) : id ≤ x.1 := by
  induction l with
  | nil => cases hx
  | cons a l ih =>
    rw [List.pairwise_cons] at h
    by_cases ha : a.1 < id
    · exact ih h.2 (by simpa [List.dropWhile_cons, ha] using hx)
    · have hx : x ∈ a :: l := by simpa [List.dropWhile_cons, ha] using hx
      obtain rfl | hx := List.mem_cons.mp hx
      · exact Int.not_lt.mp ha
      · exact Int.le_trans (Int.not_lt.mp ha) (Int.le_of_lt (h.1 x hx))

theorem lt_of_mem_dropWhile {l : List (Int × Text)} (h : l.Pairwise (·.1 < ·.1))
    (hle : ∀ x ∈ l, id ≤ x.1) (hx : x ∈ l.dropWhile (·.1 == id)) : id < x.1 := by
  cases l with
  | nil => cases hx
  | cons a l =>
    rw [List.pairwise_cons] at h
    have hl : ∀ x ∈ l, id < x.1 :=
      fun x hx => Int.lt_of_le_of_lt (hle a List.mem_cons_self) (h.1 x hx)
    by_cases ha : a.1 = id
    · rw [List.dropWhile_cons_of_pos (by simpa using ha)] at hx
      exact hl x ((List.dropWhile_sublist _).mem hx)
    · rw [List.dropWhile_cons_of_neg (by simpa using ha)] at hx
      obtain rfl | hx := List.mem_cons.mp hx
      · exact Int.lt_iff_le_and_ne.mpr ⟨hle x List.mem_cons_self, Ne.symm ha⟩
      · exact hl x hx

theorem ordered_setNamespace (h : info.Ordered) (id : Int) (name : Text) :
    (info.setNamespace id name).Ordered := by
  have hbefore : (info.namespaces.takeWhile (·.1 < id)).Pairwise (·.1 < ·.1) :=
    h.sublist (List.takeWhile_sublist _)
  have hfrom : (info.namespaces.dropWhile (·.1 < id)).Pairwise (·.1 < ·.1) :=
    h.sublist (List.dropWhile_sublist _)
  have hlt : ∀ x ∈ info.namespaces.takeWhile (·.1 < id), x.1 < id := by
    intro x hx
    simpa using List.mem_takeWhile_imp hx
  have hgt : ∀ x ∈ (info.namespaces.dropWhile (·.1 < id)).dropWhile (·.1 == id), id < x.1 :=
    fun x hx => lt_of_mem_dropWhile hfrom (fun _ => le_of_mem_dropWhile h) hx
  rw [Ordered, namespaces_setNamespace, List.pairwise_append, List.pairwise_cons]
  refine ⟨hbefore, ⟨hgt, hfrom.sublist (List.dropWhile_sublist _)⟩, fun x hx y hy => ?_⟩
  obtain rfl | hy := List.mem_cons.mp hy
  · exact hlt x hx
  · exact Int.lt_trans (hlt x hx) (hgt y hy)

/-- Of two names for one number the last one stays. -/
theorem setNamespace_setNamespace (info : SiteInfo) (id : Int) (name name' : Text) :
    (info.setNamespace id name).setNamespace id name' = info.setNamespace id name' := by
  have hbefore : ∀ x ∈ info.namespaces.takeWhile (·.1 < id), decide (x.1 < id) = true :=
    fun _ => List.mem_takeWhile_imp
  simp only [setNamespace, Text.drop_takeWhile]
  simp [List.takeWhile_append_of_pos hbefore, List.dropWhile_append_of_pos hbefore,
    List.dropWhile_idempotent]

theorem perm_setNamespace (h : ∀ x ∈ info.namespaces, x.1 ≠ id) (name : Text) :
    (info.setNamespace id name).namespaces.Perm ((id, name) :: info.namespaces) := by
  have hfrom : (info.namespaces.dropWhile (·.1 < id)).dropWhile (·.1 == id) =
      info.namespaces.dropWhile (·.1 < id) := by
    refine List.dropWhile_eq_self_iff.mpr fun hne => ?_
    have hmem := (List.dropWhile_sublist _).mem (List.get_mem _ ⟨0, hne⟩)
    simpa using h _ hmem
  rw [namespaces_setNamespace, hfrom]
  refine List.perm_middle.trans ?_
  rw [List.takeWhile_append_dropWhile]

/-- Sets names one after the other. -/
def setNamespaces (info : SiteInfo) (entries : List (Int × Text)) : SiteInfo :=
  entries.foldl (fun info x => info.setNamespace x.1 x.2) info

@[simp] theorem database_setNamespaces (info : SiteInfo) (entries : List (Int × Text)) :
    (info.setNamespaces entries).database = info.database := by
  induction entries generalizing info with
  | nil => rfl
  | cons x entries ih => exact ih (info.setNamespace x.1 x.2)

theorem ordered_setNamespaces (h : info.Ordered) (entries : List (Int × Text)) :
    (info.setNamespaces entries).Ordered := by
  induction entries generalizing info with
  | nil => exact h
  | cons x entries ih => exact ih (ordered_setNamespace h x.1 x.2)

theorem perm_setNamespaces {entries : List (Int × Text)} (hnodup : (entries.map (·.1)).Nodup)
    (hnew : ∀ x ∈ info.namespaces, x.1 ∉ entries.map (·.1)) :
    (info.setNamespaces entries).namespaces.Perm (entries ++ info.namespaces) := by
  induction entries generalizing info with
  | nil => rfl
  | cons x entries ih =>
    rw [List.map_cons, List.nodup_cons] at hnodup
    have hset : (info.setNamespace x.1 x.2).namespaces.Perm (x :: info.namespaces) :=
      perm_setNamespace (fun y hy heq => hnew y hy (heq ▸ List.mem_cons_self)) x.2
    have hnew' : ∀ y ∈ (info.setNamespace x.1 x.2).namespaces, y.1 ∉ entries.map (·.1) := by
      intro y hy
      obtain rfl | hy := List.mem_cons.mp (hset.mem_iff.mp hy)
      · exact hnodup.1
      · exact fun hmem => hnew y hy (List.mem_cons_of_mem x.1 hmem)
    exact (ih hnodup.2 hnew').trans ((hset.append_left entries).trans List.perm_middle)

/-- A table is the same in whatever order its entries are set. -/
theorem setNamespaces_eq (h : info.Ordered) {entries : List (Int × Text)}
    (hperm : entries.Perm info.namespaces) (database : Text) :
    ({ database } : SiteInfo).setNamespaces entries = { info with database } := by
  have hkeys : (info.namespaces.map (·.1)).Nodup := by
    rw [List.Nodup, List.pairwise_map]
    exact h.imp Int.ne_of_lt
  have hsame : (({ database } : SiteInfo).setNamespaces entries).namespaces.Perm info.namespaces := by
    refine (perm_setNamespaces ((hperm.map _).nodup_iff.mpr hkeys) (by simp)).trans ?_
    simpa using hperm
  have horder : (({ database } : SiteInfo).setNamespaces entries).Ordered :=
    ordered_setNamespaces (ordered_empty database) entries
  have hnamespaces : (({ database } : SiteInfo).setNamespaces entries).namespaces = info.namespaces :=
    hsame.eq_of_pairwise (fun _ _ _ _ hab hba => absurd hab (Int.lt_asymm hba)) horder h
  have hdatabase := database_setNamespaces { database } entries
  generalize ({ database } : SiteInfo).setNamespaces entries = result at hnamespaces hdatabase
  cases result
  simp_all

end SiteInfo

-- -----------------------------------------------------------------------------------------
-- Tables that are read
-- -----------------------------------------------------------------------------------------

namespace Dump

theorem bind_ok {x : Except DumpError α} : x >>= f = .ok b ↔ ∃ a, x = .ok a ∧ f a = .ok b := by
  cases x <;> simp [bind, Except.bind]

theorem SiteState.ordered_readText {s : SiteState} (h : s.info.Ordered) (t : Text) :
    (s.readText t).info.Ordered := by
  unfold readText
  split
  · exact h
  · split
    · exact SiteInfo.ordered_setNamespace h _ t
    · exact h
  · exact h

theorem SiteState.ordered_readEmpty {s : SiteState} (h : s.info.Ordered) (e : Element) :
    (s.readEmpty e).info.Ordered := by
  unfold readEmpty
  split
  · split
    · exact SiteInfo.ordered_setNamespace h _ []
    · exact h
  · exact h

theorem SiteState.ordered_step {s s' : SiteState} (h : s.info.Ordered)
    (hstep : s.step strict e = .ok s') : s'.info.Ordered := by
  cases e with
  | start tag =>
    obtain ⟨e, -, he⟩ := bind_ok.mp hstep
    cases he
    exact h
  | empty tag =>
    obtain ⟨e, -, he⟩ := bind_ok.mp hstep
    cases he
    exact ordered_readEmpty h e
  | text raw =>
    obtain ⟨t, -, ht⟩ := bind_ok.mp hstep
    cases ht
    exact ordered_readText h t
  | _ =>
    cases hstep
    exact h

theorem ordered_readSite {s : SiteState} (h : s.info.Ordered)
    (hread : readSite strict s sound events = .ok (site, rest)) : site.info.Ordered := by
  induction events generalizing s with
  | nil => cases hread
  | cons e events ih =>
    obtain ⟨next, hstep, hread⟩ := bind_ok.mp hread
    split at hread
    · cases hread
      exact SiteState.ordered_step h hstep
    · exact ih (SiteState.ordered_step h hstep) hread

theorem ordered_read (h : read strict bytes = .ok d) : d.siteInfo.Ordered := by
  obtain ⟨⟨site, rest⟩, hsite, h⟩ := bind_ok.mp h
  cases h
  exact ordered_readSite (SiteInfo.ordered_empty []) hsite

end Dump

end Wikitext
