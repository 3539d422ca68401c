import Wikitext.Proofs.Xml.Document

/-!
# Beginnings of documents

What is read of a document does not depend on what comes behind it: the events of a beginning are the
first events of the whole (`cutOff_events`). Only a text at the end of a beginning may be cut short.
Markup that breaks off is a fault (`unsound_cut`).
-/

namespace Wikitext.Xml

-- -----------------------------------------------------------------------------------------
-- Ends of markup
-- -----------------------------------------------------------------------------------------

/-- What is read at the start of some bytes is read there whatever comes behind them. -/
def ReadsOn (read? : Bytes → Option (α × Bytes)) : Prop :=
  ∀ ⦃t a rest⦄, read? t = some (a, rest) → ∀ more, read? (t ++ more) = some (a, rest ++ more)

theorem ReadsOn.map {read? : Bytes → Option (α × Bytes)} (h : ReadsOn read?) (f : α × Bytes → β × Bytes)
    (hf : ∀ a rest more, f (a, rest ++ more) = ((f (a, rest)).1, (f (a, rest)).2 ++ more)) :
    ReadsOn fun t => (read? t).map f := by
  intro t b rest hread more
  obtain ⟨⟨a, rest'⟩, ha, hb⟩ := Option.map_eq_some_iff.mp hread
  simp only [h ha more, Option.map_some, hf, hb]

theorem length_mark_cutAt? (h : cutAt? mark t = some (before, after)) : mark.length ≤ t.length := by
  induction t generalizing before with
  | nil => cases h
  | cons b t ih =>
    simp only [cutAt?] at h
    split at h
    · rename_i hmark
      exact (List.isPrefixOf_iff_prefix.mp hmark).length_le
    · obtain ⟨⟨u, v⟩, hc, he⟩ := Option.map_eq_some_iff.mp h
      cases he
      exact Nat.le_succ_of_le (ih hc)

/-- A mark that begins further on lies within the bytes, so no mark goes beyond their end. -/
theorem readsOn_cutAt? (mark : Bytes) : ReadsOn (cutAt? mark) := by
  intro t before after h more
  induction t generalizing before with
  | nil => cases h
  | cons b t ih =>
    simp only [cutAt?, List.cons_append] at h ⊢
    split at h
    · rename_i hmark
      cases h
      have hmark := List.isPrefixOf_iff_prefix.mp hmark
      have hlater : mark.isPrefixOf (b :: (t ++ more)) = true :=
        List.isPrefixOf_iff_prefix.mpr (hmark.trans (List.prefix_append (b :: t) more))
      rw [if_pos hlater, ← List.cons_append, List.drop_append_of_le_length hmark.length_le]
    · rename_i hmark
      obtain ⟨⟨u, v⟩, hc, he⟩ := Option.map_eq_some_iff.mp h
      cases he
      have hlater : ¬ mark.isPrefixOf (b :: (t ++ more)) = true := by
        rw [List.isPrefixOf_iff_prefix] at hmark ⊢
        intro hp
        refine hmark (List.prefix_of_prefix_length_le hp (List.prefix_append (b :: t) more) ?_)
        exact Nat.le_succ_of_le (length_mark_cutAt? hc)
      rw [if_neg hlater, ih hc]
      rfl

/-- A scan that goes byte by byte and stops at one of them does not look any further. -/
theorem readsOn_scan {scan : σ → Bytes → Option (Bytes × Bytes)} {stops : σ → UInt8 → Bool}
    {next : σ → UInt8 → σ} (hnil : ∀ s, scan s [] = none)
    (hcons : ∀ s b t, scan s (b :: t) = if stops s b then some ([], t)
      else (scan (next s b) t).map fun (before, after) => (b :: before, after)) (s : σ) :
    ReadsOn (scan s) := by
  intro t before after h more
  induction t generalizing s before with
  | nil =>
    rw [hnil] at h
    cases h
  | cons b t ih =>
    rw [hcons] at h
    rw [List.cons_append, hcons]
    split at h
    · rename_i hend
      cases h
      rw [if_pos hend]
    · rename_i hend
      obtain ⟨⟨u, v⟩, hc, he⟩ := Option.map_eq_some_iff.mp h
      cases he
      rw [if_neg hend, ih _ hc]
      rfl

theorem readsOn_cutTag? (quote : Option UInt8) : ReadsOn (cutTag? quote) :=
  readsOn_scan (fun _ => rfl) (fun _ _ _ => rfl) quote

theorem readsOn_cutDeclaration? (depth : Nat) : ReadsOn (cutDeclaration? depth) :=
  readsOn_scan (fun _ => rfl) (fun _ _ _ => rfl) depth

-- -----------------------------------------------------------------------------------------
-- Markup
-- -----------------------------------------------------------------------------------------

theorem readsOn_instruction? : ReadsOn instruction? := by
  intro t e rest h more
  cases t with
  | nil => cases h
  | cons b t =>
    rw [instruction?, List.head?_cons] at h
    rw [instruction?, List.cons_append, List.head?_cons]
    by_cases hhead : (some b == some 0x3E) = true
    · rw [if_pos hhead] at h
      cases h
    · rw [if_neg hhead] at h ⊢
      exact (readsOn_cutAt? (ascii "?>")).map _ (fun _ _ _ => rfl) h more

theorem readsOn_stop? : ReadsOn stop? :=
  (readsOn_cutTag? none).map _ fun _ _ _ => rfl

theorem readsOn_start? : ReadsOn start? := by
  refine (readsOn_cutTag? none).map _ fun raw rest more => ?_
  dsimp only
  split <;> rfl

theorem isPrefixOf_append {mark t : Bytes} (h : mark.isPrefixOf t = true) (more : Bytes) :
    mark.isPrefixOf (t ++ more) = true :=
  List.isPrefixOf_iff_prefix.mpr
    ((List.isPrefixOf_iff_prefix.mp h).trans (List.prefix_append t more))

/-- What stands behind a mark is read on if the mark is there. -/
theorem ReadsOn.behind {read? : Bytes → Option (α × Bytes)} (h : ReadsOn read?) (mark : Bytes) :
    ReadsOn fun t => if mark.isPrefixOf t then read? (t.drop mark.length) else none := by
  intro t a rest hread more
  dsimp only at hread ⊢
  split at hread
  · rename_i hmark
    have hlength := (List.isPrefixOf_iff_prefix.mp hmark).length_le
    rw [if_pos (isPrefixOf_append hmark more), List.drop_append_of_le_length hlength]
    exact h hread more
  · cases hread

theorem readsOn_docType : ReadsOn fun t =>
    if (t.take 7).map (fun b => (Char.ofNat b.toNat).toUpper) == "DOCTYPE".toList then
      match cutDeclaration? 0 (t.drop 7) with
      | some (raw, rest) => if raw.all isSpace then none else some (Event.docType raw, rest)
      | none => none
    else none := by
  intro t e rest h more
  dsimp only at h ⊢
  split at h
  · rename_i hkeyword
    have hlength : 7 ≤ t.length := by
      have hsame := congrArg List.length (beq_iff_eq.mp hkeyword)
      rw [List.length_map, List.length_take, show "DOCTYPE".toList.length = 7 from rfl] at hsame
      omega
    rw [List.take_append_of_le_length hlength, if_pos hkeyword, List.drop_append_of_le_length hlength]
    split at h
    · rename_i hcut
      rw [readsOn_cutDeclaration? 0 hcut more]
      dsimp only
      split at h
      · cases h
      · cases h
        rw [if_neg ‹_›]
    · cases h
  · cases h

/-- What kind of markup it is does not depend on what comes behind it either. -/
theorem readsOn_bang? : ReadsOn bang? := by
  intro t e rest h more
  cases t with
  | nil => cases h
  | cons b t =>
    have hdash : (ascii "-").isPrefixOf (b :: t ++ more) = (ascii "-").isPrefixOf (b :: t) := rfl
    have hbracket : (ascii "[").isPrefixOf (b :: t ++ more) = (ascii "[").isPrefixOf (b :: t) := rfl
    unfold bang? at h ⊢
    rw [hdash, hbracket]
    split at h
    · rw [if_pos ‹_›]
      exact ((readsOn_cutAt? (ascii "-->")).map _ fun _ _ _ => rfl).behind (ascii "--") h more
    · rw [if_neg ‹_›]
      split at h
      · rw [if_pos ‹_›]
        exact ((readsOn_cutAt? (ascii "]]>")).map _ fun _ _ _ => rfl).behind (ascii "[CDATA[") h more
      · rw [if_neg ‹_›]
        exact readsOn_docType h more

theorem readsOn_markup? : ReadsOn markup? := by
  intro t e rest h more
  cases t with
  | nil => cases h
  | cons b t =>
    simp only [markup?, List.cons_append] at h ⊢
    split at h
    · rw [if_pos ‹_›]
      exact readsOn_bang? h more
    · rw [if_neg ‹_›]
      split at h
      · rw [if_pos ‹_›]
        exact readsOn_instruction? h more
      · rw [if_neg ‹_›]
        split at h
        · rw [if_pos ‹_›]
          exact readsOn_stop? h more
        · rw [if_neg ‹_›]
          exact readsOn_start? h more

/-- Markup that is cut off is none. -/
theorem markup?_cut (h : markup? (t ++ more) = some (e, rest)) (hrest : rest.length < more.length) :
    markup? t = none := by
  cases hread : markup? t with
  | none => rfl
  | some result =>
    have hlonger := readsOn_markup? hread more
    rw [h] at hlonger
    cases hlonger
    rw [List.length_append] at hrest
    omega

-- -----------------------------------------------------------------------------------------
-- Events
-- -----------------------------------------------------------------------------------------

/-- The first events are those of a beginning of the document with the others. -/
inductive CutOff : List Event → List Event → Prop
  | nil : CutOff [] es
  | text : CutOff [.text raw] (.text (raw ++ more) :: es)
  | cons : CutOff es es' → CutOff (e :: es) (e :: es')

/-- Bytes are cut at the first angle bracket. -/
theorem exists_front (t : Bytes) :
    ∃ raw rest, t = raw ++ rest ∧ 0x3C ∉ raw ∧ ∀ b ∈ rest.head?, b = 0x3C := by
  induction t with
  | nil => exact ⟨[], [], rfl, by simp, nofun⟩
  | cons b t ih =>
    by_cases hb : b = 0x3C
    · exact ⟨[], b :: t, rfl, by simp, by simpa using hb⟩
    · obtain ⟨raw, rest, rfl, hraw, hrest⟩ := ih
      exact ⟨b :: raw, rest, rfl, by simpa [hraw] using Ne.symm hb, hrest⟩

theorem eventsFrom_fault (h : markup? t = none) (opened : List Bytes) :
    eventsFrom opened (0x3C :: t) = ⟨[], false⟩ := by
  rw [eventsFrom_eq]
  simp [h]

theorem eventsFrom_misplaced (h : markup? t = some (e, rest)) (ho : openAfter? opened e = none) :
    eventsFrom opened (0x3C :: t) = ⟨[], false⟩ := by
  rw [eventsFrom_eq]
  simp [h, ho]

theorem eventsFrom_raw (hne : raw ≠ []) (hraw : 0x3C ∉ raw) (opened : List Bytes) :
    eventsFrom opened raw = ⟨[.text raw], true⟩ := by
  have h : eventsFrom opened (raw ++ []) = ⟨[.text raw], true⟩ := by
    rw [eventsFrom_text hne hraw (by simp), eventsFrom_nil]
  rwa [List.append_nil] at h

theorem cutOff_text (hne : raw ≠ []) (hraw : 0x3C ∉ raw) (opened : List Bytes) (more : Bytes) :
    CutOff (eventsFrom opened raw).events (eventsFrom opened (raw ++ more)).events := by
  obtain ⟨raw', rest, rfl, hraw', hrest⟩ := exists_front more
  have hnone : 0x3C ∉ raw ++ raw' := by
    rw [List.mem_append]
    exact not_or.mpr ⟨hraw, hraw'⟩
  rw [eventsFrom_raw hne hraw, ← List.append_assoc, eventsFrom_text (by simp [hne]) hnone hrest]
  exact .text

/-- Markup that ends in the beginning is read there, and then what is behind it. -/
theorem cutOff_markup (opened : List Bytes) (t more : Bytes)
    (hrest : ∀ opened rest, rest.length ≤ t.length →
      CutOff (eventsFrom opened rest).events (eventsFrom opened (rest ++ more)).events) :
    CutOff (eventsFrom opened (0x3C :: t)).events
      (eventsFrom opened (0x3C :: (t ++ more))).events := by
  cases hread : markup? t with
  | none =>
    rw [eventsFrom_fault hread]
    exact .nil
  | some result =>
    obtain ⟨e, rest⟩ := result
    have hlonger := readsOn_markup? hread more
    cases ho : openAfter? opened e with
    | none =>
      rw [eventsFrom_misplaced hread ho]
      exact .nil
    | some opened' =>
      rw [eventsFrom_markup hread ho, eventsFrom_markup hlonger ho]
      exact .cons (hrest opened' rest (length_markup? hread))

/-- By induction on the bytes that are left, from one angle bracket to the next. -/
theorem cutOff_eventsFrom (opened : List Bytes) (t more : Bytes) :
    CutOff (eventsFrom opened t).events (eventsFrom opened (t ++ more)).events := by
  induction hn : t.length using Nat.strong_induction_on generalizing opened t with
  | _ n ih =>
    subst hn
    obtain ⟨raw, rest, rfl, hraw, hrest⟩ := exists_front t
    cases rest with
    | nil =>
      rw [List.append_nil]
      by_cases hne : raw = []
      · rw [hne, eventsFrom_nil]
        exact .nil
      · exact cutOff_text hne hraw opened more
    | cons b t =>
      obtain rfl := hrest b rfl
      have hmarkup := cutOff_markup opened t more fun opened rest hlength =>
        ih rest.length (by simp only [List.length_append, List.length_cons]; omega) opened rest rfl
      rw [List.append_assoc]
      by_cases hne : raw = []
      · rw [hne]
        exact hmarkup
      · rw [eventsFrom_text hne hraw hrest, eventsFrom_text hne hraw (by simp)]
        exact .cons hmarkup

theorem events_marked (h : byteOrderMark <+: t) : events t = eventsFrom [] (t.drop 3) := by
  rw [events, if_pos (List.isPrefixOf_iff_prefix.mpr h)]

theorem events_unmarked (h : ¬ byteOrderMark <+: t) : events t = eventsFrom [] t := by
  rw [events, if_neg (mt List.isPrefixOf_iff_prefix.mp h)]

/-- The events of a beginning of a document are the first of its events. Only the beginning of a byte
order mark is taken for a text, while the mark itself is none. -/
theorem cutOff_events (h : t <+: u) :
    CutOff (events t).events (events u).events ∨
      (events t).events = [.text t] ∧ t <+: byteOrderMark ∧ t ≠ byteOrderMark := by
  obtain ⟨more, rfl⟩ := h
  by_cases hmark : byteOrderMark <+: t
  · have hlength : 3 ≤ t.length := hmark.length_le
    rw [events_marked hmark, events_marked (hmark.trans (List.prefix_append t more)),
      List.drop_append_of_le_length hlength]
    exact .inl (cutOff_eventsFrom [] _ more)
  · by_cases hlater : byteOrderMark <+: t ++ more
    · have hshort : t <+: byteOrderMark :=
        (List.prefix_or_prefix_of_prefix hlater (List.prefix_append t more)).resolve_left hmark
      rw [events_unmarked hmark]
      by_cases hne : t = []
      · rw [hne, eventsFrom_nil]
        exact .inl .nil
      · have hnone : 0x3C ∉ t := fun hmem => absurd (hshort.subset hmem) (by decide)
        rw [eventsFrom_raw hne hnone]
        refine .inr ⟨rfl, hshort, ?_⟩
        rintro rfl
        exact hmark List.prefix_rfl
    · rw [events_unmarked hmark, events_unmarked hlater]
      exact .inl (cutOff_eventsFrom [] t more)

/-- A written document can be cut between any two of its events. -/
theorem Written.split {es es' : List Event} (h : Written (es ++ es') t) :
    ∃ u u', t = u ++ u' ∧ Written es u ∧ Written es' u' := by
  induction es generalizing t with
  | nil => exact ⟨[], t, rfl, .nil, h⟩
  | cons e es ih =>
    cases h with
    | @cons _ _ space t he hs htext h =>
      obtain ⟨u, u', rfl, hu, hu'⟩ := ih h
      refine ⟨e.bytes space ++ u, u', (List.append_assoc _ _ _).symm, .cons he hs ?_ hu, hu'⟩
      intro ht b hb
      cases u with
      | nil => cases hb
      | cons c u => exact htext ht b hb

/-- A document that breaks off in markup has a fault there. -/
theorem unsound_cut {e : Event} (hu : Written es u) (ho : openAfterAll? opened es = some opened')
    (he : e.Sound) (hs : Blank space) (htext : e.isText = false) (hq : q <+: e.bytes space) (hne : q ≠ [])
    (hcut : q ≠ e.bytes space) : (eventsFrom opened (u ++ q)).sound = false := by
  obtain ⟨t, ht, hmarkup⟩ := markup?_written he hs htext []
  obtain ⟨more, hmore⟩ := hq
  obtain ⟨b, q, rfl⟩ := List.exists_cons_of_ne_nil hne
  rw [List.append_nil, ← hmore] at ht
  cases ht
  have hrest : ([] : Bytes).length < more.length := by
    refine List.length_pos_iff.mpr ?_
    rintro rfl
    exact hcut (by rw [← hmore, List.append_nil])
  rw [eventsFrom_append hu ho (by simp), eventsFrom_fault (markup?_cut hmarkup hrest)]

end Wikitext.Xml
