import Wikitext.Proofs.Article.Log
import Wikitext.Proofs.Category.Link

/-!
# Canonical links

A link in canonical spelling is again a link, and reads the same as the one that it is made from
(`Link.canonical`). So it stands between the same gaps, and there is nothing left to do
(`fixAll_keeps`).
-/

namespace Wikitext

theorem map_eq_map_of_eq {f : α → γ} {g : β → γ} {f' : α → δ} {g' : β → δ} {as : List α} {bs : List β}
    (h : as.map f = bs.map g) (hall : ∀ a ∈ as, ∀ b ∈ bs, f a = g b → f' a = g' b) :
    as.map f' = bs.map g' := by
  induction as generalizing bs with
  | nil => cases bs <;> simp_all
  | cons a as ih =>
    cases bs with
    | nil => cases h
    | cons b bs =>
      obtain ⟨hab, h⟩ := List.cons.inj h
      have hrest := ih h fun a' ha' b' hb' => hall a' (.tail a ha') b' (.tail b hb')
      simp only [List.map_cons, hall a (.head as) b (.head bs) hab, hrest]

namespace Category

open Pattern Fix

variable {ns : Text}

-- -----------------------------------------------------------------------------------------
-- Readings
-- -----------------------------------------------------------------------------------------

/-- What a link says: its name, and its key where it has one. -/
def reading (m : Match) : Text × Option Text :=
  (nameOf m, ((keyOf? m).filter fun key => !key.isEmpty).map Text.trimEnd)

/-- The reading of a link with the name `x` and the key part `k`. -/
def readingOf (x k : Text) : Text × Option Text :=
  (normalName x, if k.drop 1 = [] then none else some (Text.trimEnd (k.drop 1)))

/-- A key has no white space at its end, unless there is nothing else. -/
def canonicalKey (key : Text) : Text := if Text.isBlankText key then key else Text.trimEnd key

/-- The canonical spelling of the link `w` with the name `x` and the key part `k`. -/
def canonicalOf (ns w x k : Text) : Text :=
  if normalName x = [] then w
  else if k.drop 1 = [] then link ns (normalName x)
  else linkWithKey ns (normalName x) (canonicalKey (k.drop 1))

theorem canonicalKey_canonicalKey (key : Text) :
    canonicalKey (canonicalKey key) = canonicalKey key := by
  unfold canonicalKey
  cases h : Text.isBlankText key with
  | true => simp [h]
  | false => simp [Text.trimEnd_trimEnd]

theorem trimEnd_canonicalKey (key : Text) : Text.trimEnd (canonicalKey key) = Text.trimEnd key := by
  unfold canonicalKey
  split
  · rfl
  · exact Text.trimEnd_trimEnd key

theorem canonicalKey_eq_nil : canonicalKey key = [] ↔ key = [] := by
  unfold canonicalKey
  cases h : Text.isBlankText key with
  | true => rfl
  | false =>
    have hne : key ≠ [] := by
      rintro rfl
      cases h
    have htrim : Text.trimEnd key ≠ [] := fun hnil => by
      rw [Text.isBlankText_iff.mpr (Text.trimEnd_eq_nil.mp hnil)] at h
      cases h
    simp [hne, htrim]

theorem Sortable.canonicalKey (h : Sortable key) : Sortable (canonicalKey key) := by
  unfold Category.canonicalKey
  split
  · exact h
  · exact fun c hc => h c ((Text.trimEnd_isPrefix key).subset hc)

-- -----------------------------------------------------------------------------------------
-- Links that are written
-- -----------------------------------------------------------------------------------------

/-- A name without brackets and pipes. -/
def Plain (x : Text) : Prop := ∀ c ∈ x, c ∉ "[]|".toList

instance (x : Text) : Decidable (Plain x) := inferInstanceAs (Decidable (∀ c ∈ x, c ∉ "[]|".toList))

theorem unreached_breaks : ∀ c ∈ "[]|\n".toList, Chars.unreached c.toNat = true := by decide +kernel

/-- A name may have line breaks, which count as spaces. -/
theorem nameable_normalName (hx : Plain x) : Nameable (normalName x) := by
  intro c hc
  by_contra hno
  rw [Bool.not_eq_true, Bool.not_eq_false', List.contains_iff_mem] at hno
  have hcases : ∀ c ∈ "[]|\n".toList, c ≠ ' ' ∧ (c ∈ "[]|".toList ∨ Chars.isBlank c = true) := by
    decide
  obtain ⟨hspace, hplain⟩ := hcases c hno
  obtain ⟨hmem, hsolid⟩ := (mem_of_mem_normalName (unreached_breaks c hno) hc).resolve_left hspace
  rcases hplain with hplain | hblank
  · exact hx c hmem hplain
  · rw [hsolid] at hblank
    cases hblank

theorem Nameable.plain (h : Nameable x) : Plain x := by
  intro c hc hno
  have hall : ∀ c ∈ "[]|".toList, (!"[]|\n".toList.contains c) = false := by decide
  have hnameable := h c hc
  rw [hall c hno] at hnameable
  cases hnameable

theorem link_written (hx : Nameable x) (hk : KeyPart k) : Link ns (link ns (x ++ k)) x k := by
  have hgap : Gap [] := by simp [Gap]
  have h := Link.intro hgap (sameCaseless_self ns) hgap hx hk
  simpa [link] using h

theorem link_written_bare (hx : Nameable x) : Link ns (link ns x) x [] := by
  simpa using link_written hx .absent

theorem link_written_key (hx : Nameable x) (hkey : Sortable key) :
    Link ns (linkWithKey ns x key) x ('|' :: key) := by
  simpa [linkWithKey] using link_written hx (.present hkey)

-- -----------------------------------------------------------------------------------------
-- Canonical links
-- -----------------------------------------------------------------------------------------

theorem Link.nameable (h : Link ns w x k) : Nameable x := by
  obtain ⟨-, -, -, hx, -⟩ := h
  exact hx

theorem Link.keyPart (h : Link ns w x k) : KeyPart k := by
  obtain ⟨-, -, -, -, hk⟩ := h
  exact hk

theorem KeyPart.sortable (h : KeyPart k) : Sortable (k.drop 1) := by
  cases h with
  | absent => simp [Sortable]
  | present hkey => exact hkey

/-- A canonical link is a link, with the same reading, and it is its own canonical spelling. -/
theorem Link.canonical (h : Link ns w x k) : ∃ x' k', Link ns (canonicalOf ns w x k) x' k' ∧
    readingOf x' k' = readingOf x k ∧
      canonicalOf ns (canonicalOf ns w x k) x' k' = canonicalOf ns w x k := by
  have hx := nameable_normalName h.nameable.plain
  by_cases hname : normalName x = []
  · have hsame : canonicalOf ns w x k = w := if_pos hname
    rw [hsame]
    exact ⟨x, k, h, rfl, hsame⟩
  · by_cases hkey : k.drop 1 = []
    · have hbare : canonicalOf ns w x k = link ns (normalName x) := by
        simp [canonicalOf, hname, hkey]
      rw [hbare]
      refine ⟨_, [], link_written_bare hx, ?_, ?_⟩
      · simp [readingOf, normalName_normalName, hkey]
      · simp [canonicalOf, normalName_normalName, hname]
    · have hwith : canonicalOf ns w x k =
          linkWithKey ns (normalName x) (canonicalKey (k.drop 1)) := by
        simp only [canonicalOf, if_neg hname, if_neg hkey]
      have hkey' := mt canonicalKey_eq_nil.mp hkey
      rw [hwith]
      refine ⟨_, _, link_written_key hx h.keyPart.sortable.canonicalKey, ?_, ?_⟩
      · simp only [readingOf, normalName_normalName, List.drop_one, List.tail_cons] at hkey hkey' ⊢
        rw [if_neg hkey, if_neg hkey', trimEnd_canonicalKey]
      · simp only [canonicalOf, normalName_normalName, List.drop_one, List.tail_cons] at hkey hkey' ⊢
        rw [if_neg hname, if_neg hkey', canonicalKey_canonicalKey]

-- -----------------------------------------------------------------------------------------
-- The links of a text
-- -----------------------------------------------------------------------------------------

section
variable {p : Profile} {v : Vocabulary} (hv : Vocabulary.ofProfile p = .ok v)
  (hns : Nameable p.categoryNamespace)
include hv hns

/-- What is told of a link and what becomes of it, from its text. -/
theorem reads_canonical (hm : m ∈ v.category.matches' t) : ∃ x k,
    Link p.categoryNamespace m.text x k ∧ reading m = readingOf x k ∧
      canonical v m = canonicalOf p.categoryNamespace m.text x k := by
  obtain ⟨x, k, hlink, hname, hgroup⟩ := read_match hv hns hm
  refine ⟨x, k, hlink, ?_, ?_⟩
  · rw [reading, readingOf, keyOf?, hname, hgroup]
    cases hlink.keyPart with
    | absent => rfl
    | @present key => cases key <;> rfl
  · rw [canonical, canonicalOf, keyOf?, hname, hgroup, (names_ofProfile hv).profile]
    cases hx : normalName x with
    | nil => rfl
    | cons =>
      cases hlink.keyPart with
      | absent => rfl
      | @present key => cases key <;> rfl

/-- A link says the same wherever it stands. -/
theorem reading_of_text (hm : m ∈ v.category.matches' t) (h : Link p.categoryNamespace m.text x k) :
    reading m = readingOf x k ∧ canonical v m = canonicalOf p.categoryNamespace m.text x k := by
  obtain ⟨x', k', h', hreading, hcanonical⟩ := reads_canonical hv hns hm
  obtain ⟨rfl, rfl⟩ := h.unique h'
  exact ⟨hreading, hcanonical⟩

theorem words_canonical (hm : m ∈ v.category.matches' t) :
    (linkPattern p.categoryNamespace).Words (canonical v m) := by
  obtain ⟨x, k, hlink, -, hcanonical⟩ := reads_canonical hv hns hm
  obtain ⟨x', k', hlink', -, -⟩ := hlink.canonical
  exact hcanonical ▸ words_linkPattern.mpr ⟨x', k', hlink'⟩

/-- A canonical link that is found again. -/
theorem reading_of_canonical (hm : m ∈ v.category.matches' t) (hm' : m' ∈ v.category.matches' t')
    (htext : m'.text = canonical v m) : reading m' = reading m ∧ canonical v m' = m'.text := by
  obtain ⟨x, k, hlink, hreading, hcanonical⟩ := reads_canonical hv hns hm
  obtain ⟨x', k', hlink', hsame, hfinal⟩ := hlink.canonical
  rw [← hcanonical, ← htext] at hlink' hfinal
  obtain ⟨hreading', hcanonical'⟩ := reading_of_text hv hns hm' hlink'
  exact ⟨by rw [hreading', hsame, hreading], by rw [hcanonical', hfinal]⟩

theorem matches_fixAll (t : Text) :
    (v.category.matches' (fixAll v t)).map (·.text) = (v.category.matches' t).map (canonical v) ∧
      v.category.outside (fixAll v t) = v.category.outside t := by
  have henc := enclosing_linkPattern hns
  have hwords := fun m => words_canonical (m := m) (t := t) hv hns
  rw [fixAll, category_eq hv] at *
  exact matches_replaceAll henc.toLexical henc.separate hwords

/-- The canonical spelling keeps what the links say, in their order, and what stands around them,
and it is final. -/
theorem fixAll_keeps (t : Text) :
    (v.category.matches' (fixAll v t)).map reading = (v.category.matches' t).map reading ∧
      v.category.outside (fixAll v t) = v.category.outside t ∧
        fixAll v (fixAll v t) = fixAll v t := by
  obtain ⟨htexts, houtside⟩ := matches_fixAll hv hns t
  refine ⟨map_eq_map_of_eq htexts fun m' hm' m hm htext =>
    (reading_of_canonical hv hns hm hm' htext).1, houtside, ?_⟩
  have hfinal : ∀ m' ∈ v.category.matches' (fixAll v t), canonical v m' = m'.text := by
    intro m' hm'
    have htext := List.mem_map_of_mem (f := (·.text)) hm'
    rw [htexts] at htext
    obtain ⟨m, hm, he⟩ := List.mem_map.mp htext
    exact (reading_of_canonical hv hns hm hm' he.symm).2
  rw [category_eq hv] at hfinal
  conv_lhs => rw [fixAll, category_eq hv]
  exact replaceAll_eq_self (enclosing_linkPattern hns).toLexical hfinal

end

/-- A blank key stays, an empty one goes, and a link without a name is left alone. -/
theorem fixAll_keeps_english : ∃ v, Vocabulary.ofProfile .englishWikipedia = .ok v ∧
    (let t := "[[ category : foo_ bar |Key ]] [[Category:b|]]\n[[CATEGORY:c| ]][[Category: _|d]]".toList
    ((v.category.matches' (fixAll v t)).map reading = (v.category.matches' t).map reading ∧
      v.category.outside (fixAll v t) = v.category.outside t ∧
        fixAll v (fixAll v t) = fixAll v t) ∧
      fixAll v t =
        "[[Category:Foo bar|Key]] [[Category:B]]\n[[Category:C| ]][[Category: _|d]]".toList) := by
  have hrun : (Vocabulary.ofProfile .englishWikipedia).toOption.map (fun v => fixAll v
      "[[ category : foo_ bar |Key ]] [[Category:b|]]\n[[CATEGORY:c| ]][[Category: _|d]]".toList) =
        some "[[Category:Foo bar|Key]] [[Category:B]]\n[[Category:C| ]][[Category: _|d]]".toList := by
    decide +kernel
  obtain ⟨v, hv, hrun⟩ := Article.exists_ok_of_toOption_map hrun
  exact ⟨v, hv, fixAll_keeps hv (by decide) _, hrun⟩

end Category

end Wikitext
