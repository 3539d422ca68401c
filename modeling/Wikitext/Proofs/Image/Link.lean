import Wikitext.Image
import Wikitext.Proofs.Category.Link
import Wikitext.Proofs.Pattern.Phrase

/-!
# Reading image links

The name of a file is spelled with its first letter in either case and with a run of spaces and
underscores for each space (`words_namePattern`). A link to a file is a front, which has the
namespace and a spelling of the name, maybe a caption, and the closing brackets (`words_link`).
-/

namespace Wikitext.Image

open Pattern
open Category (Gap words_gap)

-- -----------------------------------------------------------------------------------------
-- Patterns of words
-- -----------------------------------------------------------------------------------------

/-- The pattern looks at nothing but what it consumes and records nothing of it, and a search for it
overlooks nothing. -/
structure Simple (p : Pattern) : Prop where
  steady : p.steady = true
  anchorless : p.anchorless = true
  groupless : p.hasGroups = false

theorem Simple.append {p q : Pattern} (hp : Simple p) (hq : Simple q) : Simple (p ++ q) where
  steady := by rw [steady_append, hp.steady, hq.steady, Bool.and_self]
  anchorless := by rw [anchorless_append, hp.anchorless, hq.anchorless, Bool.and_self]
  groupless := by rw [hasGroups_append, hp.groupless, hq.groupless, Bool.or_self]

theorem Simple.orElse {p q : Pattern} (hp : Simple p) (hq : Simple q) : Simple (p <|> q) where
  steady := Bool.and_eq_true _ _ |>.mpr ⟨hp.steady, hq.steady⟩
  anchorless := Bool.and_eq_true _ _ |>.mpr ⟨hp.anchorless, hq.anchorless⟩
  groupless := Bool.or_eq_false_iff.mpr ⟨hp.groupless, hq.groupless⟩

theorem Simple.caseless {p : Pattern} (hp : Simple p) : Simple p.caseless where
  steady := (steady_caseless p).trans hp.steady
  anchorless := (anchorless_caseless p).trans hp.anchorless
  groupless := (hasGroups_caseless p).trans hp.groupless

theorem simple_inOrder {ps : List Pattern} (h : ∀ p ∈ ps, Simple p) : Simple (inOrder ps) where
  steady := steady_inOrder fun p hp => (h p hp).steady
  anchorless := anchorless_inOrder fun p hp => (h p hp).anchorless
  groupless := by
    rw [hasGroups_inOrder, List.any_eq_false]
    exact fun p hp => Bool.eq_false_iff.mp (h p hp).groupless

theorem simple_nameAmong {ps : List Pattern} (h : ∀ p ∈ ps, Simple p) : Simple (nameAmong ps) := by
  cases ps with
  | nil => exact ⟨rfl, rfl, rfl⟩
  | cons p ps =>
    induction ps generalizing p with
    | nil => exact h p List.mem_cons_self
    | cons q ps ih =>
      rw [List.forall_mem_cons] at h
      exact h.1.orElse (ih q h.2)

theorem simple_char (accepts : Char → Bool) : Simple (char accepts) := ⟨rfl, rfl, rfl⟩

theorem simple_ofText (t : Text) : Simple (ofText t) := simple_inOrder fun p hp => by
  obtain ⟨c, -, rfl⟩ := List.mem_map.mp hp
  exact simple_char _

theorem simple_gap : Simple gap := ⟨rfl, rfl, rfl⟩

-- -----------------------------------------------------------------------------------------
-- Namespaces
-- -----------------------------------------------------------------------------------------

/-- The text is a name of the namespace of files. -/
def IsNamespace (v : Vocabulary) (n : Text) : Prop := (fileNamespace v).Words n

theorem simple_namespaces (p : Profile) : Simple p.fileNamespace.caseless := by
  refine (simple_nameAmong fun p hp => ?_).caseless
  obtain ⟨ns, -, rfl⟩ := List.mem_map.mp hp
  exact simple_ofText ns

theorem simple_fileNamespace (v : Vocabulary) : Simple (fileNamespace v) := simple_namespaces v.profile

/-- A sign in a name of the namespace is one of the profile. -/
theorem IsNamespace.mem (h : IsNamespace v n) (hd : Chars.Caseless d) (hmem : d ∈ n) :
    ∃ ns ∈ v.profile.fileNamespaces, d ∈ ns := by
  obtain ⟨gs, h⟩ := h
  rw [fileNamespace, Profile.fileNamespace] at h
  cases hns : v.profile.fileNamespaces with
  | nil =>
    rw [hns] at h
    obtain ⟨rfl, -⟩ := reads_empty_iff.mp h
    cases hmem
  | cons ns nss =>
    rw [hns, List.map_cons, nameAmong, caseless_firstOf] at h
    · obtain ⟨p, hp, hform⟩ := exists_of_firstOf h
      simp only [← List.map_cons (f := ofText), List.map_map, List.mem_map] at hp
      obtain ⟨ns', hns', rfl⟩ := hp
      exact ⟨ns', hns', mem_of_mem_anyCase (forms_ofText_caseless.mp hform).1 hmem hd.variants⟩
    · simp

-- -----------------------------------------------------------------------------------------
-- Names
-- -----------------------------------------------------------------------------------------

/-- A name without blanks at its ends, and with spaces for underscores. -/
def plainName (name : Text) : Text := Text.trim (name.map fun c => if c == '_' then ' ' else c)

/-- The name with its first letter in either case. -/
def initials : Text → List Text
  | [] => [[]]
  | c :: cs =>
    if Chars.toUpper c = Chars.toLower c then [c :: cs]
    else [Chars.toUpper c ++ cs, Chars.toLower c ++ cs]

/-- The text is written so: for each space it has spaces and underscores, at least one. -/
inductive Written : Text → Text → Prop
  | nil : Written [] []
  | letter : c ≠ ' ' → Written t x → Written (c :: t) (c :: x)
  | space : s ≠ [] → (∀ c ∈ s, c = ' ' ∨ c = '_') → Written t x → Written (' ' :: t) (s ++ x)

/-- The text is a spelling of the name of a file. -/
def Spells (name x : Text) : Prop := ∃ t ∈ initials (plainName name), Written t x

theorem mem_of_mem_initials (hd : Chars.Caseless d) (ht : t ∈ initials name) (hmem : d ∈ t) :
    d ∈ name := by
  obtain ⟨hupper, hlower⟩ := hd.unmoved
  cases name with
  | nil =>
    obtain rfl := List.mem_singleton.mp ht
    exact hmem
  | cons c cs =>
    rw [initials] at ht
    split at ht
    · obtain rfl := List.mem_singleton.mp ht
      exact hmem
    · rcases List.mem_cons.mp ht with rfl | ht
      · rcases List.mem_append.mp hmem with hmem | hmem
        · exact Chars.eq_of_mem_toUpper hupper hmem ▸ List.mem_cons_self
        · exact List.mem_cons_of_mem c hmem
      · obtain rfl := List.mem_singleton.mp ht
        rcases List.mem_append.mp hmem with hmem | hmem
        · exact Chars.eq_of_mem_toLower hlower hmem ▸ List.mem_cons_self
        · exact List.mem_cons_of_mem c hmem

theorem Written.mem (h : Written t x) (hmem : d ∈ x) : d ∈ t ∨ d = ' ' ∨ d = '_' := by
  induction h with
  | nil => cases hmem
  | letter _ _ ih =>
    rcases List.mem_cons.mp hmem with rfl | hmem
    · exact .inl List.mem_cons_self
    · exact (ih hmem).imp_left (List.mem_cons_of_mem _)
  | space _ hs _ ih =>
    rcases List.mem_append.mp hmem with hmem | hmem
    · exact .inr (hs d hmem)
    · exact (ih hmem).imp_left (List.mem_cons_of_mem _)

/-- A sign in a spelling of a name is one of the name. -/
theorem Spells.mem (h : Spells name x) (hd : Chars.Caseless d) (hspace : d ≠ ' ') (hscore : d ≠ '_')
    (hmem : d ∈ x) : d ∈ name := by
  obtain ⟨t, ht, hx⟩ := h
  have ht' := (hx.mem hmem).resolve_right (by simp [hspace, hscore])
  have hname := (Text.trim_isInfix _).subset (mem_of_mem_initials hd ht ht')
  obtain ⟨c, hc, hcd⟩ := List.mem_map.mp hname
  split at hcd
  · exact absurd hcd.symm hspace
  · exact hcd ▸ hc

theorem written_append : Written (t ++ u) w ↔ ∃ x y, w = x ++ y ∧ Written t x ∧ Written u y := by
  constructor
  · intro h
    induction t generalizing w with
    | nil => exact ⟨[], w, rfl, .nil, h⟩
    | cons c t ih =>
      cases h with
      | letter hc h =>
        obtain ⟨x, y, rfl, hx, hy⟩ := ih h
        exact ⟨c :: x, y, rfl, .letter hc hx, hy⟩
      | @space s _ _ hne hs h =>
        obtain ⟨x, y, rfl, hx, hy⟩ := ih h
        exact ⟨s ++ x, y, by rw [List.append_assoc], .space hne hs hx, hy⟩
  · rintro ⟨x, y, rfl, hx, hy⟩
    induction hx with
    | nil => exact hy
    | letter hc _ ih => exact .letter hc ih
    | space hne hs _ ih =>
      rw [List.append_assoc]
      exact .space hne hs ih

/-- Text with white space at neither end. -/
def Solid (t : Text) : Prop :=
  (∀ c ∈ t.head?, Chars.isBlank c = false) ∧ ∀ c ∈ t.getLast?, Chars.isBlank c = false

/-- Letter case at the start does not bring white space to an end. -/
theorem Solid.initial {u : Text} (h : Solid (c :: cs)) (hne : u ≠ [])
    (hu : ∀ d ∈ u, Chars.isBlank d = true → d = c) : Solid (u ++ cs) := by
  have hc : Chars.isBlank c = false := h.1 c rfl
  have hsolid : ∀ d ∈ u, Chars.isBlank d = false := fun d hd => by
    by_contra hblank
    rw [Bool.not_eq_false] at hblank
    rw [hu d hd hblank, hc] at hblank
    cases hblank
  constructor
  · intro d hd
    rw [List.head?_append_of_ne_nil u hne] at hd
    exact hsolid d (List.mem_of_mem_head? hd)
  · intro d hd
    cases cs with
    | nil =>
      rw [List.append_nil] at hd
      exact hsolid d (List.mem_of_getLast? hd)
    | cons x cs =>
      rw [List.getLast?_append_of_ne_nil u (List.cons_ne_nil x cs)] at hd
      exact h.2 d (by rwa [List.getLast?_cons_cons])

theorem toUpper_ne_nil (c : Char) : Chars.toUpper c ≠ [] := by
  obtain ⟨d, ds, h, -⟩ := Chars.toUpper_toUpper c
  rw [h]
  exact List.cons_ne_nil d ds

theorem toLower_ne_nil (c : Char) : Chars.toLower c ≠ [] := by
  unfold Chars.toLower
  split
  · exact List.cons_ne_nil _ _
  · split <;> exact List.cons_ne_nil _ _

theorem solid_of_mem_initials (hname : Solid name) (ht : t ∈ initials name) : Solid t := by
  cases name with
  | nil =>
    obtain rfl := List.mem_singleton.mp ht
    exact hname
  | cons c cs =>
    rw [initials] at ht
    split at ht
    · obtain rfl := List.mem_singleton.mp ht
      exact hname
    · rcases List.mem_cons.mp ht with rfl | ht
      · exact hname.initial (toUpper_ne_nil c) fun d hd hblank =>
          Chars.eq_of_mem_toUpper (Chars.unmoved_blank hblank).1 hd
      · obtain rfl := List.mem_singleton.mp ht
        exact hname.initial (toLower_ne_nil c) fun d hd hblank =>
          Chars.eq_of_mem_toLower (Chars.unmoved_blank hblank).2 hd

theorem Written.solid (h : Written t x) (ht : Solid t) : Solid x := by
  have hblank : Chars.isBlank ' ' = true := by decide
  constructor
  · cases h with
    | nil => simp
    | letter hc h => exact ht.1
    | space => exact absurd (ht.1 ' ' rfl) (by simp [hblank])
  · rcases List.eq_nil_or_concat t with rfl | ⟨t, l, rfl⟩
    · cases h
      simp
    · rw [List.concat_eq_append] at h ht
      have hl : Chars.isBlank l = false := ht.2 l (by simp)
      obtain ⟨x, y, rfl, -, hy⟩ := written_append.mp h
      cases hy with
      | letter _ hnil =>
        cases hnil
        intro d hd
        obtain rfl : l = d := by simpa using hd
        exact hl
      | space => exact absurd hl (by simp [hblank])

theorem Spells.solid (h : Spells name x) : Solid x := by
  obtain ⟨t, ht, hx⟩ := h
  exact hx.solid (solid_of_mem_initials (Text.solid_of_trim (Text.trim_trim _)) ht)

/-- How a character of a name may be written. -/
def spelled (c : Char) : Pattern := if c == ' ' then many1 (oneOf " _") else single c

theorem namePattern_eq (name : Text) :
    namePattern name = Title.patternWith spelled (plainName name) := rfl

theorem simple_spelled (t : Text) : Simple (inOrder (t.map spelled)) := simple_inOrder fun p hp => by
  obtain ⟨c, -, rfl⟩ := List.mem_map.mp hp
  unfold spelled
  split <;> exact ⟨rfl, rfl, rfl⟩

theorem simple_namePattern (name : Text) : Simple (namePattern name) := by
  rw [namePattern_eq]
  unfold Title.patternWith
  split
  · exact ⟨rfl, rfl, rfl⟩
  · dsimp only
    split
    · exact simple_spelled _
    · exact ((simple_spelled _).orElse (simple_spelled _)).append (simple_spelled _)

theorem words_spelled_space :
    (spelled ' ').Words s ↔ s ≠ [] ∧ ∀ c ∈ s, c = ' ' ∨ c = '_' := by
  have hall : ∀ c, " _".toList.contains c = true ↔ c = ' ' ∨ c = '_' := by simp
  constructor
  · rintro ⟨gs, h⟩
    obtain ⟨hne, hs, -⟩ := forms_run1.mp h
    exact ⟨hne, fun c hc => (hall c).mp (hs c hc)⟩
  · rintro ⟨hne, hs⟩
    exact ⟨[], forms_run1.mpr ⟨hne, fun c hc => (hall c).mpr (hs c hc), rfl⟩⟩

theorem words_spelled_letter (hc : c ≠ ' ') : (spelled c).Words s ↔ s = [c] := by
  rw [spelled, if_neg (by simpa using hc)]
  exact words_ofText (t := [c])

theorem words_spelled : (inOrder (t.map spelled)).Words x ↔ Written t x := by
  induction t generalizing x with
  | nil =>
    constructor
    · rintro ⟨gs, h⟩
      obtain ⟨rfl, -⟩ := reads_empty_iff.mp h
      exact .nil
    · rintro ⟨⟩
      exact ⟨[], .empty⟩
  | cons c t ih =>
    have hone : (spelled c).anchorless = true := (simple_spelled [c]).anchorless
    rw [List.map_cons, words_inOrder_cons hone (simple_spelled t).anchorless]
    constructor
    · rintro ⟨u, x, rfl, hu, hx⟩
      by_cases hc : c = ' '
      · subst hc
        obtain ⟨hne, hu⟩ := words_spelled_space.mp hu
        exact .space hne hu (ih.mp hx)
      · obtain rfl := (words_spelled_letter hc).mp hu
        exact .letter hc (ih.mp hx)
    · intro h
      cases h with
      | letter hc hx => exact ⟨[c], _, rfl, (words_spelled_letter hc).mpr rfl, ih.mpr hx⟩
      | space hne hs hx => exact ⟨_, _, rfl, words_spelled_space.mpr ⟨hne, hs⟩, ih.mpr hx⟩

theorem words_namePattern : (namePattern name).Words x ↔ Spells name x := by
  rw [namePattern_eq, Spells]
  cases plainName name with
  | nil => simp [initials, Title.patternWith, ← words_spelled, inOrder]
  | cons c cs =>
    by_cases hcase : Chars.toUpper c = Chars.toLower c
    · rw [initials, if_pos hcase, Title.patternWith, if_pos (by simpa using hcase), words_spelled]
      simp
    · have halt := (simple_spelled (Chars.toUpper c)).orElse (simple_spelled (Chars.toLower c))
      rw [initials, if_neg hcase, Title.patternWith, if_neg (by simpa using hcase),
        words_append halt.anchorless (simple_spelled cs).anchorless]
      simp only [words_alt, words_spelled, List.mem_cons, List.not_mem_nil, or_false,
        exists_eq_or_imp, exists_eq_left, written_append]
      constructor
      · rintro ⟨u, y, rfl, hu | hu, hy⟩
        · exact .inl ⟨u, y, rfl, hu, hy⟩
        · exact .inr ⟨u, y, rfl, hu, hy⟩
      · rintro (⟨u, y, rfl, hu, hy⟩ | ⟨u, y, rfl, hu, hy⟩)
        · exact ⟨u, y, rfl, .inl hu, hy⟩
        · exact ⟨u, y, rfl, .inr hu, hy⟩

-- -----------------------------------------------------------------------------------------
-- Links
-- -----------------------------------------------------------------------------------------

/-- A link up to the name of the file and the gap behind it. -/
def linkFront (v : Vocabulary) (name : Text) : Pattern :=
  lit "[[" ++ gap ++ fileNamespace v ++ gap ++ lit ":" ++ gap ++ namePattern name ++ gap

/-- A link in a caption, with the text behind it. -/
def inCaption : Pattern := lit "[[" ++ many (noneOf "[]") ++ lit "]]" ++ many (noneOf "[]")

def caption : Pattern := lit "|" ++ many (noneOf "[]") ++ many inCaption

def link (v : Vocabulary) (name : Text) : Pattern := linkFront v name ++ opt caption ++ lit "]]"

theorem linkTo_eq (v : Vocabulary) (name : Text) : linkTo v name = (link v name).compile := rfl

theorem simple_linkFront (v : Vocabulary) (name : Text) : Simple (linkFront v name) :=
  ((((((simple_ofText _).append simple_gap).append (simple_fileNamespace v)).append
    simple_gap).append (simple_ofText _)).append simple_gap).append (simple_namePattern name)
      |>.append simple_gap

theorem simple_caption : Simple (opt caption) := ⟨rfl, rfl, rfl⟩

theorem simple_link (v : Vocabulary) (name : Text) : Simple (link v name) :=
  ((simple_linkFront v name).append simple_caption).append (simple_ofText _)

theorem lexical_link (v : Vocabulary) (name : Text) : (link v name).Lexical where
  steady := (simple_link v name).steady
  nullable := by rw [link, nullable_append]; exact Bool.and_false _
  anchorless := (simple_link v name).anchorless

/-- What stands in front of the caption of a link. -/
inductive Front (v : Vocabulary) (name : Text) : Text → Prop
  | intro : Gap g₁ → IsNamespace v n → Gap g₂ → Gap g₃ → Spells name x → Gap g₄ →
      Front v name ("[[".toList ++ (g₁ ++ (n ++ (g₂ ++ (':' :: (g₃ ++ (x ++ g₄)))))))

theorem words_linkFront : (linkFront v name).Words f ↔ Front v name f := by
  have hlit : ∀ s, (lit s).anchorless = true := fun s => anchorless_ofText _
  have hgap : gap.anchorless = true := rfl
  have htext : ∀ {s w}, (lit s).Words w ↔ w = s.toList := words_ofText
  simp only [linkFront, words_append, anchorless_append, (simple_fileNamespace v).anchorless,
    (simple_namePattern name).anchorless, hlit, hgap, Bool.and_self, htext, words_gap,
    words_namePattern]
  constructor
  · rintro ⟨_, g₄, rfl, ⟨_, x, rfl, ⟨_, g₃, rfl, ⟨_, _, rfl, ⟨_, g₂, rfl, ⟨_, n, rfl, ⟨_, g₁, rfl, rfl,
      h₁⟩, hn⟩, h₂⟩, rfl⟩, h₃⟩, hx⟩, h₄⟩
    have hfront := Front.intro h₁ hn h₂ h₃ hx h₄
    simpa using hfront
  · rintro ⟨h₁, hn, h₂, h₃, hx, h₄⟩
    exact ⟨_, _, by simp, ⟨_, _, rfl, ⟨_, _, rfl, ⟨_, _, rfl, ⟨_, _, rfl, ⟨_, _, rfl, ⟨_, _, rfl, rfl,
      h₁⟩, hn⟩, h₂⟩, rfl⟩, h₃⟩, hx⟩, h₄⟩

theorem words_link : (link v name).Words w ↔
    ∃ f k, Front v name f ∧ (k = [] ∨ caption.Words k) ∧ w = f ++ (k ++ "]]".toList) := by
  have hfront := simple_linkFront v name
  rw [link, lit, words_append (hfront.append simple_caption).anchorless (anchorless_ofText _)]
  simp only [words_append hfront.anchorless simple_caption.anchorless, words_linkFront, words_opt,
    words_ofText]
  constructor
  · rintro ⟨_, _, rfl, ⟨f, k, rfl, hf, hk⟩, rfl⟩
    exact ⟨f, k, hf, hk, List.append_assoc ..⟩
  · rintro ⟨f, k, hf, hk, rfl⟩
    exact ⟨f ++ k, _, (List.append_assoc ..).symm, ⟨f, k, rfl, hf, hk⟩, rfl⟩

end Wikitext.Image
