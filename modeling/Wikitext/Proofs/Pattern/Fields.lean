import Wikitext.Proofs.Pattern.Context

/-!
# Searching a text field by field

A pattern that reads the sign in front of a field, and then of the field only, finds at most one match
in each field, at its beginning, whatever the other fields are. So a search goes through a text field
by field, and so does a replacement (`byField_replaceAll`).
-/

namespace Wikitext

open Pattern Regex

-- -----------------------------------------------------------------------------------------
-- Patterns that begin with a sign
-- -----------------------------------------------------------------------------------------

/-- The pattern reads the sign `c`, once and at the beginning, whatever stands in front of it. -/
structure Headed (c : Char) (p : Pattern) : Prop where
  head : p.Reads b w r gs → ∃ x, w = c :: x ∧ c ∉ x
  before : p.Reads b w r gs → ∀ b', p.Reads b' w r gs

namespace Headed

theorem sign (c : Char) : Headed c (ofText [c]) where
  head h := by
    obtain ⟨rfl, -⟩ := forms_ofText.mp (h.anywhere (anchorless_ofText _) none [])
    exact ⟨[], rfl, List.not_mem_nil⟩
  before h b' := h.anywhere (anchorless_ofText _) b' _

theorem append {p q : Pattern} (h : Headed c p) (hq : q.avoids [c] = true) : Headed c (p ++ q) where
  head hw := by
    obtain ⟨hu, hv⟩ := reads_seq_iff.mp hw
    obtain ⟨x, rfl, hx⟩ := h.head hu
    exact ⟨x ++ _, rfl, fun hmem => (List.mem_append.mp hmem).elim hx (hv.not_mem hq)⟩
  before hw b' := by
    obtain ⟨hu, hv⟩ := reads_seq_iff.mp hw
    obtain ⟨x, rfl, -⟩ := h.head hu
    exact .seq (h.before hu b') hv

theorem group {p : Pattern} (h : Headed c p) : Headed c (group i p) where
  head hw := by
    obtain ⟨⟩ := hw
    exact h.head ‹_›
  before hw b' := by
    obtain ⟨⟩ := hw
    exact .capture (h.before ‹_› b')

end Headed

/-- The pattern reads the sign in front of a field and then of the field only; all that it sees of what
is behind the field is that no word goes on there. -/
structure Fielded (c : Char) (p : Pattern) : Prop extends Headed c p where
  steady : p.steady = true
  nullable : p.nullable = false
  bounded : p.bounded = true
  sign : Chars.isWord c = false

/-- The pattern reads nothing of the field. -/
def Idle (c : Char) (p : Pattern) (g : Text) : Prop :=
  ∀ x s gs, g = x ++ s → ¬ p.Reads none (c :: x) s gs

/-- A search through the fields finds the matches, and puts other texts in their places. -/
inductive ByField (c : Char) (p : Pattern) (f : Match → Text) :
    List Text → List Match → List Text → Prop
  | nil : ByField c p f [] [] []
  | keep : Idle c p g → ByField c p f gs ms gs' → ByField c p f (g :: gs) ms (g :: gs')
  | hit : p.Reads none (c :: x) s m.captures.texts → m.text = c :: x → f m = c :: x' →
      ByField c p f gs ms gs' → ByField c p f ((x ++ s) :: gs) (m :: ms) ((x' ++ s) :: gs')

variable {c : Char} {p : Pattern} {f : Match → Text}

theorem ByField.behind (h : ByField c p f gs ms gs') (hidle : ∀ g ∈ us, Idle c p g) :
    ByField c p f (us ++ gs) ms (us ++ gs') := by
  induction us with
  | nil => exact h
  | cons u us ih =>
    rw [List.forall_mem_cons] at hidle
    exact .keep hidle.1 (ih hidle.2)

-- -----------------------------------------------------------------------------------------
-- Fields of a text
-- -----------------------------------------------------------------------------------------

namespace Text

/-- Behind a field comes the next one or the end of the text. -/
theorem field_behind {gs : List Text} (c : Char) (hmem : g ∈ gs) : ∃ a r, gs.flatMap (c :: ·) = a ++ c :: (g ++ r) ∧
    ∀ d ∈ r.head?, d = c := by
  obtain ⟨us, vs, rfl⟩ := List.append_of_mem hmem
  refine ⟨us.flatMap (c :: ·), vs.flatMap (c :: ·), by simp, ?_⟩
  cases vs with
  | nil => simp
  | cons v vs => simp

end Text

namespace Fielded

/-- No word goes on where the sign comes, and none at the end of a text. -/
theorem sameKind (hp : Fielded c p) (hr : ∀ d ∈ r.head?, d = c) (s : Text) :
    SameKind (s ++ r).head? s.head? := by
  have hkind : SameKind r.head? (none : Option Char) := by
    cases r with
    | nil => rfl
    | cons d r =>
      obtain rfl := hr d rfl
      simp [SameKind, hp.sign]
  have hend : SameKind (s ++ r).head? (s ++ []).head? := hkind.head s
  rwa [List.append_nil] at hend

theorem ends_in_field (hp : Fielded c p) (hr : ∀ d ∈ r.head?, d = c) :
    p.Reads b w (s ++ r) gs ↔ p.Reads none w s gs :=
  ⟨fun h => (hp.before h none).around hp.bounded rfl (hp.sameKind hr s),
    fun h => (hp.before h b).around hp.bounded rfl (hp.sameKind hr s).symm⟩

/-- Nothing is read of the fields that a search passes over. -/
theorem idle_of_vacant (hp : Fielded c p) (h : Vacant p b u r) (hr : ∀ d ∈ r.head?, d = c)
    (hsplit : Text.splitOn c u = g :: gs) : ∀ g ∈ gs, Idle c p g := by
  rintro k hk x s gs' rfl hreads
  obtain ⟨a, v, hv, hbehind⟩ := Text.field_behind c hk
  have hend : ∀ d ∈ (v ++ r).head?, d = c := by
    cases v with
    | nil => exact hr
    | cons => exact hbehind
  refine h (g ++ a) (c :: (x ++ s) ++ v) (c :: x) (s ++ (v ++ r)) _ ?_ (by simp) (by simp)
    ((hp.ends_in_field hend).mpr hreads)
  rw [Text.eq_of_splitOn hsplit, hv]
  simp

end Fielded

/-- The text in front of the first sign stays, and the fields are gone through one by one: by induction
on the matches, with all that a search passes over in front of the next one. -/
theorem Searched.byField (h : Searched p b t parts tail) (hp : Fielded c p)
    (hf : ∀ part ∈ parts, ∃ x, f part.2 = c :: x ∧ c ∉ x) :
    ∃ g gs gs', Text.splitOn c t = g :: gs ∧
      Text.splitOn c (parts.flatMap (fun part => part.1 ++ f part.2) ++ tail) = g :: gs' ∧
      ByField c p f gs (parts.map (·.2)) gs' := by
  induction h with
  | @rest b t hvacant =>
    obtain ⟨g, gs, hsplit⟩ := Text.exists_splitOn c t
    have hidle := hp.idle_of_vacant hvacant (by simp) hsplit
    exact ⟨g, gs, gs, hsplit, hsplit, by simpa using ByField.nil.behind hidle⟩
  | @hit b u w r m parts tail hvacant hm _ ih =>
    rw [List.forall_mem_cons] at hf
    obtain ⟨s, gs, gs', hr, hr', hrest⟩ := ih hf.2
    obtain ⟨x, rfl, hx⟩ := hp.head hm.reads
    obtain ⟨x', hfm, hx'⟩ := hf.1
    obtain ⟨g, us, hu⟩ := Text.exists_splitOn c u
    have hread : p.Reads none (c :: x) s m.captures.texts := by
      rw [Text.eq_of_splitOn hr] at hm
      refine (hp.ends_in_field fun d hd => ?_).mp hm.reads
      cases gs with
      | nil => cases hd
      | cons => simpa using hd.symm
    have hidle := hp.idle_of_vacant hvacant (by simp) hu
    refine ⟨g, us ++ (x ++ s) :: gs, us ++ (x' ++ s) :: gs', ?_, ?_, ?_⟩
    · rw [List.cons_append, Text.splitOn_append_cons, hu, Text.splitOn_append hx hr, List.cons_append]
    · rw [List.flatMap_cons, hfm, List.append_assoc, List.append_assoc, List.cons_append,
        Text.splitOn_append_cons, hu, Text.splitOn_append hx' hr', List.cons_append]
    · exact (ByField.hit hread hm.text hfm hrest).behind hidle

theorem byField_replaceAll (hp : Fielded c p) (t : Text)
    (hf : ∀ m ∈ p.compile.matches' t, ∃ x, f m = c :: x ∧ c ∉ x) :
    ∃ g gs gs', Text.splitOn c t = g :: gs ∧ Text.splitOn c (p.compile.replaceAll f t) = g :: gs' ∧
      ByField c p f gs (p.compile.matches' t) gs' := by
  obtain ⟨parts, tail, h, hpieces⟩ := exists_searched hp.steady hp.nullable t
  rw [matches_of_pieces hpieces] at hf ⊢
  rw [replaceAll_of_pieces hpieces]
  exact h.byField hp fun part hpart => hf part.2 (List.mem_map_of_mem hpart)

end Wikitext
