import Wikitext.Proofs.Reference.Scan

/-!
# The attributes of a reference

The opening tag of a reference has attributes, each with a key and a value in quotes of either kind
or none. A tag is loose if it begins with a bare name of several words, which may be meant as one
name or as a name and further attributes. The spelling of a tag can change in four ways that keep
the attributes of a tag that is not loose: nothing but white space is dropped from a tag without
attributes, the first key is written anew, and white space is dropped inside the quotes of the name.
-/

namespace Wikitext.Reference

open Category (SameCaseless)

-- -----------------------------------------------------------------------------------------
-- Tags with attributes
-- -----------------------------------------------------------------------------------------

structure Keyword (k : Text) : Prop where
  ne_nil : k ≠ []
  solid : ∀ c ∈ k, Chars.isBlank c = false ∧ c ∉ "\"'=/".toList

/-- A value as it is written. -/
inductive Written (v : Text) : Text → Prop
  | quoted : q ∈ "\"'".toList → q ∉ v → Written v (q :: (v ++ [q]))
  | bare : v ≠ [] → (∀ c ∈ v, Chars.isBlank c = false ∧ c ∉ "\"'=".toList) → Written v v

/-- What follows the name of a tag, up to its end, with the keys and values in it. -/
inductive Attributes : Text → List (Text × Text) → Prop
  | done : Blank b → Slash s → Blank b' → Attributes (b ++ (s ++ b')) []
  | more : Blank b → b ≠ [] → Keyword k → Blank b₁ → Blank b₂ → Written v w → Attributes t as →
      Attributes (b ++ (k ++ (b₁ ++ '=' :: (b₂ ++ (w ++ t))))) ((k, v) :: as)

/-- The inside of the opening tag of a reference, or of one that stands alone. -/
inductive RefTag : Text → List (Text × Text) → Prop
  | intro : Blank b → SameCaseless "ref".toList f → Attributes t as → RefTag (b ++ (f ++ t)) as

/-- Several words without quotes and slashes. -/
structure Phrase (x : Text) : Prop where
  plain : ∀ c ∈ x, c ∉ "\"'>/".toList
  trimmed : Text.trim x = x
  blank : ∃ c ∈ x, Chars.isBlank c = true

/-- The inside of a tag with several words after the equals sign of the name, and nothing else. -/
inductive Loose : Text → Prop
  | intro : Blank b → SameCaseless "ref".toList f → Key a → Blank b' → Phrase x → Blank b'' → Slash s →
      Loose (b ++ (f ++ (a ++ (b' ++ (x ++ (b'' ++ s))))))

/-- The same key and value. In the key of the name, letter case does not count, nor does white space
around its value. -/
def SameAttribute (a a' : Text × Text) : Prop :=
  a = a' ∨ SameCaseless "name".toList a.1 ∧ SameCaseless "name".toList a'.1 ∧
    Text.trim a.2 = Text.trim a'.2

/-- Where the first tag has attributes and is not loose, the second one has the same ones and is not
loose either. -/
def Kept (y y' : Text) : Prop :=
  ∀ as, RefTag y as → ¬ Loose y → ∃ as', RefTag y' as' ∧ ¬ Loose y' ∧ List.Forall₂ SameAttribute as as'

theorem SameAttribute.refl (a : Text × Text) : SameAttribute a a := .inl rfl

theorem SameAttribute.trans (h : SameAttribute a b) (h' : SameAttribute b c) : SameAttribute a c := by
  rcases h with rfl | ⟨hkey, hkey', hvalue⟩
  · exact h'
  · rcases h' with rfl | ⟨-, hkey'', hvalue'⟩
    · exact .inr ⟨hkey, hkey', hvalue⟩
    · exact .inr ⟨hkey, hkey'', hvalue.trans hvalue'⟩

theorem Kept.refl (y : Text) : Kept y y := fun as h hloose =>
  ⟨as, h, hloose, List.forall₂_same.mpr fun a _ => .refl a⟩

theorem Kept.trans (h : Kept x y) (h' : Kept y z) : Kept x z := by
  intro as hx hloose
  obtain ⟨as', hy, hloose', hsame⟩ := h as hx hloose
  obtain ⟨as'', hz, hloose'', hsame'⟩ := h' as' hy hloose'
  exact ⟨as'', hz, hloose'', forall₂_trans SameAttribute.trans hsame hsame'⟩

-- -----------------------------------------------------------------------------------------
-- One way to read a tag
-- -----------------------------------------------------------------------------------------

theorem front_unique (hb : Blank b) (hf : SameCaseless "ref".toList f) (hb' : Blank b')
    (hf' : SameCaseless "ref".toList f') (h : b ++ (f ++ t) = b' ++ (f' ++ t')) : t = t' := by
  obtain ⟨-, hrest⟩ := hb.append_inj hb' (head_of_sameCaseless (x := 'r') (by decide) hf t)
    (head_of_sameCaseless (x := 'r') (by decide) hf' t') h
  exact (List.append_inj hrest (hf.length_eq.symm.trans hf'.length_eq)).2

theorem Keyword.head (hk : Keyword k) (r : Text) : ∀ c ∈ (k ++ r).head?, Chars.isBlank c = false := by
  obtain ⟨x, k, rfl⟩ := List.exists_cons_of_ne_nil hk.ne_nil
  exact Text.solid_cons (hk.solid x List.mem_cons_self).1 (k ++ r)

theorem keyword_of_name (hn : SameCaseless "name".toList n) : Keyword n := by
  refine ⟨fun hnil => ?_, fun c hc => ⟨?_, fun hsign => ?_⟩⟩
  · rw [hnil] at hn
    exact absurd hn.length_eq (by decide)
  · by_contra hblank
    rw [Bool.not_eq_false] at hblank
    have hmem := Pattern.mem_of_mem_anyCase hn hc (Chars.variants_blank hblank)
    have hall : ∀ c ∈ "name".toList, Chars.isBlank c = false := by decide
    rw [hall c hmem] at hblank
    cases hblank
  · have hcase : ∀ c ∈ "\"'=/".toList, Chars.Caseless c ∧ c ∉ "name".toList := by decide
    exact not_mem_of_sameCaseless (hcase c hsign).1 (hcase c hsign).2 hn hc

/-- A key ends where white space or an equals sign follows. -/
theorem Keyword.unique (hk : Keyword k) (hk' : Keyword k') (hb : Blank b) (hb' : Blank b')
    (h : k ++ (b ++ '=' :: r) = k' ++ (b' ++ '=' :: r')) : k = k' ∧ r = r' := by
  have hends : ∀ {k b}, Keyword k → Blank b → ∀ r : Text,
      (k ++ (b ++ '=' :: r)).takeWhile (fun c => !Chars.isBlank c && c != '=') = k := by
    intro k b hk hb r
    refine Text.takeWhile_append_stop (fun c hc => ?_) fun c hc => ?_
    · obtain ⟨hsolid, hsign⟩ := hk.solid c hc
      have hne : c ≠ '=' := fun he => hsign (he ▸ by decide)
      simp [hsolid, hne]
    · cases b with
      | nil =>
        obtain rfl : '=' = c := by simpa using hc
        decide
      | cons d b =>
        obtain rfl : d = c := by simpa using hc
        simp [hb d List.mem_cons_self]
  have hequals (r : Text) := Text.solid_cons (x := '=') (by decide) r
  have hsame := congrArg (List.takeWhile fun c => !Chars.isBlank c && c != '=') h
  rw [hends hk hb, hends hk' hb'] at hsame
  subst hsame
  obtain ⟨-, hrest⟩ := hb.append_inj hb' (hequals r) (hequals r') (List.append_cancel_left h)
  exact ⟨rfl, (List.cons.inj hrest).2⟩

theorem Written.head (hw : Written v w) (r : Text) : ∀ c ∈ (w ++ r).head?, Chars.isBlank c = false := by
  cases hw with
  | @quoted q hq _ =>
    have hquotes : ∀ q ∈ "\"'".toList, Chars.isBlank q = false := by decide
    exact Text.solid_cons (hquotes q hq) (v ++ [q] ++ r)
  | bare hne hsolid =>
    obtain ⟨x, v, rfl⟩ := List.exists_cons_of_ne_nil hne
    exact Text.solid_cons (hsolid x List.mem_cons_self).1 (v ++ r)

theorem Slash.not_mem_equals (hs : Slash s) : '=' ∉ s := by
  rcases hs with rfl | rfl <;> decide

theorem Attributes.eq_nil (h : Attributes t as) (ht : '=' ∉ t) : as = [] := by
  cases h with
  | done => rfl
  | more => simp at ht

/-- A tag that begins with a name has it for its first attribute. -/
theorem attributes_name (ha : Key a) (h : Attributes (a ++ t) as) :
    ∃ k v b w t' as', as = (k, v) :: as' ∧ SameCaseless "name".toList k ∧ Blank b ∧
      t = b ++ (w ++ t') ∧ Written v w ∧ Attributes t' as' := by
  obtain ⟨hb, -, hn, hb'⟩ := ha
  rename_i b n b'
  generalize htext : b ++ (n ++ (b' ++ ['='])) ++ t = u at h
  cases h with
  | @done b₁ s b₂ hb₁ hs hb₂ =>
    have hmem : '=' ∈ b₁ ++ (s ++ b₂) := by simp [← htext]
    simp only [List.mem_append] at hmem
    rcases hmem with hmem | hmem | hmem
    · exact absurd hmem (hb₁.not_mem (by decide))
    · exact absurd hmem hs.not_mem_equals
    · exact absurd hmem (hb₂.not_mem (by decide))
  | @more b₀ k b₁ b₂ v w t' as' hb₀ _ hk hb₁ hb₂ hw hrest =>
    have hname := keyword_of_name hn
    simp only [List.append_assoc, List.singleton_append] at htext
    obtain ⟨-, hkey⟩ := hb.append_inj hb₀ (hname.head _) (hk.head _) htext
    obtain ⟨rfl, hvalue⟩ := hname.unique hk hb' hb₁ hkey
    exact ⟨_, v, b₂, w, t', as', rfl, hn, hb₂, hvalue, hw, hrest⟩

-- -----------------------------------------------------------------------------------------
-- Ways to spell a tag
-- -----------------------------------------------------------------------------------------

theorem Loose.mem_equals (h : Loose y) : '=' ∈ y := by
  obtain ⟨-, -, ha, -, -, -, -⟩ := h
  obtain ⟨-, -, -, -⟩ := ha
  simp

/-- Of a loose tag with this front, the words follow the front. -/
theorem Loose.phrase (h : Loose (b ++ (f ++ (a ++ t)))) (hb : Blank b)
    (hf : SameCaseless "ref".toList f) (ha : Key a) :
    ∃ b' x b'' s, Blank b' ∧ Phrase x ∧ Blank b'' ∧ Slash s ∧ t = b' ++ (x ++ (b'' ++ s)) := by
  generalize htext : b ++ (f ++ (a ++ t)) = u at h
  obtain ⟨hb₁, hf₁, ha₁, hb₂, hx, hb₃, hs⟩ := h
  have hrest := front_unique hb hf hb₁ hf₁ htext
  obtain rfl := ha.unique ha₁ hrest
  exact ⟨_, _, _, _, hb₂, hx, hb₃, hs, List.append_cancel_left hrest⟩

theorem RefTag.attributes (h : RefTag (b ++ (f ++ t)) as) (hb : Blank b)
    (hf : SameCaseless "ref".toList f) : Attributes t as := by
  generalize htext : b ++ (f ++ t) = u at h
  obtain ⟨hb₁, hf₁, hattributes⟩ := h
  rwa [front_unique hb hf hb₁ hf₁ htext]

theorem refTag_standard (h : Attributes t as) : RefTag ("ref".toList ++ t) as :=
  .intro (b := []) blank_nil (Category.sameCaseless_self _) h

theorem attributes_standard (hb : Blank b) (hw : Written v w) (h : Attributes t as) :
    Attributes (" name=".toList ++ (b ++ (w ++ t))) (("name".toList, v) :: as) := by
  change Attributes ([' '] ++ ("name".toList ++ ([] ++ '=' :: (b ++ (w ++ t))))) _
  exact .more blank_space (by simp) (keyword_of_name (Category.sameCaseless_self _)) blank_nil hb hw h

/-- White space in a tag without attributes. -/
theorem kept_plain (hb : Blank b) (hf : SameCaseless "ref".toList f) (hb' : Blank b') :
    Kept (b ++ (f ++ b')) "ref".toList := by
  intro as h _
  obtain rfl := (h.attributes hb hf).eq_nil (hb'.not_mem (by decide))
  have hnone : Attributes ([] ++ ([] ++ [])) [] := .done blank_nil (.inl rfl) blank_nil
  exact ⟨[], refTag_standard hnone, fun hloose => absurd hloose.mem_equals (by decide), .nil⟩

/-- The tag that closes a reference has no attributes. -/
theorem kept_closing (hb : Blank b) : Kept (b ++ '/' :: t) y := by
  intro as h _
  generalize htext : b ++ '/' :: t = u at h
  obtain ⟨hb₁, hf₁, -⟩ := h
  rename_i b₁ f t₁
  have hslash := Text.solid_cons (x := '/') (by decide) t
  obtain ⟨-, hrest⟩ := hb.append_inj hb₁ hslash (head_of_sameCaseless (x := 'r') (by decide) hf₁ _) htext
  have hno : '/' ∉ f := not_mem_of_sameCaseless (by decide) (by decide) hf₁
  cases f with
  | nil => cases hf₁
  | cons c f =>
    obtain ⟨rfl, -⟩ := List.cons.inj hrest
    exact absurd List.mem_cons_self hno

/-- The front of a tag that begins with a name. -/
theorem kept_key (hb : Blank b) (hf : SameCaseless "ref".toList f) (ha : Key a) (hb' : Blank b')
    (z : Text) : Kept (b ++ (f ++ (a ++ (b' ++ z)))) ("ref".toList ++ (" name=".toList ++ z)) := by
  intro as h hloose
  obtain ⟨k, v, b₂, w, t, as, rfl, hk, hb₂, htext, hw, hrest⟩ :=
    attributes_name ha (h.attributes hb hf)
  obtain ⟨c, hc, rfl⟩ : ∃ c, Blank c ∧ z = c ++ (w ++ t) := by
    rcases List.append_eq_append_iff.mp htext with ⟨c, rfl, hz⟩ | ⟨c, rfl, hz⟩
    · exact ⟨c, hb₂.subset (List.subset_append_right _ _), hz⟩
    · cases c with
      | nil => exact ⟨[], blank_nil, hz.symm⟩
      | cons d c =>
        have hsolid := hw.head t d (by rw [hz]; rfl)
        rw [hb' d (by simp)] at hsolid
        cases hsolid
  refine ⟨("name".toList, v) :: as, refTag_standard (attributes_standard hc hw hrest), fun hloose' => ?_,
    .cons (.inr ⟨hk, Category.sameCaseless_self _, rfl⟩) (List.forall₂_same.mpr fun a _ => .refl a)⟩
  obtain ⟨b₁, x, b₃, s, hb₁, hx, hb₃, hs, hz⟩ := hloose'.phrase (b := []) blank_nil
    (Category.sameCaseless_self _) key_standard
  have hwords := Loose.intro hb hf ha (hb'.append hb₁) hx hb₃ hs
  rw [List.append_assoc b' b₁, ← hz] at hwords
  exact hloose hwords

/-- White space inside the double quotes around a name. -/
theorem kept_quoted (hb : Blank b) (hb' : Blank b') (hx : '"' ∉ x) (z : Text) :
    Kept ("ref".toList ++ (" name=".toList ++ ('"' :: (b ++ (x ++ (b' ++ '"' :: z))))))
      ("ref".toList ++ (" name=".toList ++ ('"' :: (x ++ '"' :: z)))) := by
  intro as h _
  have hquote (r : Text) := Text.solid_cons (x := '"') (by decide) r
  obtain ⟨k, v, b₂, w, t, as, rfl, hk, hb₂, htext, hw, hrest⟩ := attributes_name key_standard
    (h.attributes (b := []) blank_nil (Category.sameCaseless_self _))
  obtain ⟨-, htext⟩ := blank_nil.append_inj hb₂ (hquote _) (hw.head t) htext
  obtain ⟨rfl, rfl⟩ : v = b ++ (x ++ b') ∧ t = z := by
    cases hw with
    | @quoted q _ hv =>
      obtain ⟨rfl, htext⟩ := List.cons.inj htext
      have hmiddle : '"' ∉ b ++ (x ++ b') := by
        simp [hb.not_mem (c := '"') (by decide), hb'.not_mem (c := '"') (by decide), hx]
      have hsplit : b ++ (x ++ b') ++ '"' :: z = v ++ '"' :: t := by simpa using htext
      obtain ⟨hvalue, hrest⟩ := append_cons_inj hmiddle hv hsplit
      exact ⟨hvalue.symm, hrest.symm⟩
    | bare hne hsolid =>
      obtain ⟨c, v, rfl⟩ := List.exists_cons_of_ne_nil hne
      obtain ⟨rfl, -⟩ := List.cons.inj htext
      exact absurd (by decide) (hsolid _ List.mem_cons_self).2
  have hwritten : Written x ('"' :: (x ++ ['"'])) := .quoted (by decide) hx
  refine ⟨("name".toList, x) :: as, ?_, fun hloose => ?_, ?_⟩
  · have hall := refTag_standard (attributes_standard blank_nil hwritten hrest)
    simpa using hall
  · obtain ⟨b₁, y, b₃, s, hb₁, hy, -, -, hz⟩ := hloose.phrase (b := []) blank_nil
      (Category.sameCaseless_self _) key_standard
    obtain ⟨c, hc, -⟩ := hy.blank
    obtain ⟨d, y, rfl⟩ := List.exists_cons_of_ne_nil (List.ne_nil_of_mem hc)
    have hhead := (Text.solid_of_trim hy.trimmed).1
    obtain ⟨-, hz⟩ := blank_nil.append_inj hb₁ (hquote _) (by simpa using hhead) hz
    obtain ⟨rfl, -⟩ := List.cons.inj hz
    exact absurd (by decide) (hy.plain _ List.mem_cons_self)
  · exact .cons (.inr ⟨hk, Category.sameCaseless_self _, Text.trim_between hb hb' x⟩)
      (List.forall₂_same.mpr fun a _ => .refl a)

/-- A loose tag may change in any way. -/
theorem kept_loose (hx : Phrase x) (hb : Blank b) (hs : Slash s) (y : Text) :
    Kept ("ref".toList ++ (" name=".toList ++ (x ++ (b ++ s)))) y := by
  intro as _ hloose
  have hwords : Loose ([] ++ ("ref".toList ++ (" name=".toList ++ ([] ++ (x ++ (b ++ s)))))) :=
    .intro blank_nil (Category.sameCaseless_self _) key_standard blank_nil hx hb hs
  exact absurd hwords hloose

end Wikitext.Reference
