import Wikitext.Proofs.Category.Canonical
import Wikitext.Proofs.Metadata.BlankLines
import Wikitext.Proofs.Metadata.Kinds

/-!
# The order of the metadata

What is written of the categories are the links whose name has not come before (`fresh`). Where no
name comes twice these are all the links.

A text with its metadata at the end is a body and words on lines of their own (`arranged_eq`). No
word comes into being there, so the searches find what was written (`texts_found_arranged`), and
doing it again gives the same body and the same blocks (`arranged_arranged`).
-/

namespace Wikitext.Metadata

open Pattern Category

-- -----------------------------------------------------------------------------------------
-- The first link of each category
-- -----------------------------------------------------------------------------------------

/-- The first links of the categories that have not been seen. -/
def fresh (seen : List Text) : List Match → List Match
  | [] => []
  | m :: ms => if seen.contains (nameOf m) then fresh seen ms else m :: fresh (nameOf m :: seen) ms

theorem fresh_cons_of_mem (h : nameOf m ∈ seen) (ms : List Match) :
    fresh seen (m :: ms) = fresh seen ms := if_pos (by simpa using h)

theorem fresh_cons_of_not_mem (h : nameOf m ∉ seen) (ms : List Match) :
    fresh seen (m :: ms) = m :: fresh (nameOf m :: seen) ms := if_neg (by simpa using h)

theorem distinctCategories_eq (ms : List Match) :
    distinctCategories ms = (fresh [] ms).map (·.text) := by
  have hfold : ∀ seen links, (ms.foldl (fun found m =>
      if found.1.contains (nameOf m) then found
      else (nameOf m :: found.1, found.2 ++ [m.text])) (seen, links)).2 =
        links ++ (fresh seen ms).map (·.text) := by
    induction ms with
    | nil => simp [fresh]
    | cons m ms ih =>
      intro seen links
      by_cases h : nameOf m ∈ seen
      · rw [fresh_cons_of_mem h, ← ih]
        simp [h]
      · rw [fresh_cons_of_not_mem h, List.map_cons, List.append_cons, ← ih]
        simp [h]
  exact hfold [] []

/-- A fresh link is the first one of its name, and its name has not been seen. -/
theorem mem_fresh (h : m ∈ fresh seen ms) :
    ms.find? (nameOf · == nameOf m) = some m ∧ nameOf m ∉ seen := by
  induction ms generalizing seen with
  | nil => cases h
  | cons m' ms ih =>
    by_cases hm' : nameOf m' ∈ seen
    · rw [fresh_cons_of_mem hm'] at h
      obtain ⟨hfind, hm⟩ := ih h
      have hne : nameOf m' ≠ nameOf m := fun he => hm (he ▸ hm')
      exact ⟨by simpa [hne] using hfind, hm⟩
    · rw [fresh_cons_of_not_mem hm'] at h
      rcases List.mem_cons.mp h with rfl | h
      · exact ⟨by simp, hm'⟩
      · obtain ⟨hfind, hm⟩ := ih h
        rw [List.mem_cons, not_or] at hm
        exact ⟨by simpa [Ne.symm hm.1] using hfind, hm.2⟩

theorem mem_of_mem_fresh (h : m ∈ fresh seen ms) : m ∈ ms :=
  List.mem_of_find?_eq_some (mem_fresh h).1

/-- The names in the order in which they come first. -/
theorem names_fresh (seen : List Text) (ms : List Match) : (fresh seen ms).map nameOf =
    ((ms.map nameOf).filter fun name => !seen.contains name).eraseDups := by
  induction ms generalizing seen with
  | nil => rfl
  | cons m ms ih =>
    by_cases h : nameOf m ∈ seen
    · rw [fresh_cons_of_mem h, ih]
      simp [h]
    · rw [fresh_cons_of_not_mem h, List.map_cons, ih, List.map_cons,
        List.filter_cons_of_pos (by simpa using h), List.eraseDups_cons, List.filter_filter]
      simp [Bool.not_or, Bool.beq_eq_decide_eq]

theorem nodup_names_fresh (seen : List Text) (ms : List Match) :
    ((fresh seen ms).map nameOf).Nodup := by
  induction ms generalizing seen with
  | nil => exact .nil
  | cons m ms ih =>
    by_cases h : nameOf m ∈ seen
    · rw [fresh_cons_of_mem h]
      exact ih seen
    · rw [fresh_cons_of_not_mem h, List.map_cons, List.nodup_cons]
      refine ⟨fun hmem => ?_, ih _⟩
      obtain ⟨m', hm', he⟩ := List.mem_map.mp hmem
      exact (mem_fresh hm').2 (he ▸ List.mem_cons_self)

theorem fresh_eq_self (h : (ms.map nameOf).Nodup) (hseen : ∀ m ∈ ms, nameOf m ∉ seen) :
    fresh seen ms = ms := by
  induction ms generalizing seen with
  | nil => rfl
  | cons m ms ih =>
    rw [List.map_cons, List.nodup_cons] at h
    rw [List.forall_mem_cons] at hseen
    rw [fresh_cons_of_not_mem hseen.1, ih h.2]
    intro m' hm'
    rw [List.mem_cons, not_or]
    exact ⟨fun he => h.1 (he ▸ List.mem_map_of_mem hm'), hseen.2 m' hm'⟩

/-- Links of one text have one name. -/
theorem nameOf_eq_of_text (hv : Vocabulary.ofProfile p = .ok v) (hns : Nameable p.categoryNamespace)
    (hm : m ∈ v.category.matches' t) (hm' : m' ∈ v.category.matches' t') (h : m.text = m'.text) :
    nameOf m = nameOf m' := by
  obtain ⟨x, k, hlink, hname, -⟩ := read_match hv hns hm
  obtain ⟨x', k', hlink', hname', -⟩ := read_match hv hns hm'
  obtain ⟨rfl, -⟩ := hlink.unique (h ▸ hlink')
  rw [hname, hname']

-- -----------------------------------------------------------------------------------------
-- Body and blocks
-- -----------------------------------------------------------------------------------------

/-- The text without its metadata. -/
def body (v : Vocabulary) (t : Text) : Text :=
  Text.trimEnd (excessBlankLines.apply
    (Stretch.removeAll t (Stretch.sorted ((moved v t).map (Stretch.ofMatch t)))))

/-- What is written of the metadata of a kind. -/
def block (v : Vocabulary) (t : Text) : Kind → List Text
  | .key => ((Kind.key.found v t).take 1).map (·.text)
  | .category => distinctCategories (Kind.category.found v t)
  | .stub => (Kind.stub.found v t).map (·.text)
  | .interwiki => (Kind.interwiki.found v t).map (·.text)

/-- A body with blocks of lines behind it. -/
def assemble (body : Text) (blocks : List (List Text)) : Text :=
  Text.join "\n\n".toList ((if body.isEmpty then [] else [body]) ++
    (blocks.filter (!·.isEmpty)).map (Text.join "\n".toList))

/-- The text with its metadata at the end. -/
def arranged (v : Vocabulary) (t : Text) : Text :=
  assemble (body v t) [block v t .key ++ block v t .category, block v t .stub, block v t .interwiki]

theorem arranged_congr (hbody : body v s = body v t) (hblock : ∀ k, block v s k = block v t k) :
    arranged v s = arranged v t := by
  simp only [arranged, hbody, hblock]

/-- The characters of the text that are not part of its metadata. -/
def unmoved (v : Vocabulary) (t : Text) : Text :=
  Stretch.outside t ((moved v t).map (Stretch.ofMatch t))

/-- Texts to be included elsewhere. -/
def toInclude (t : Text) : Bool :=
  Text.includes t "<noinclude".toList || Text.includes t "<includeonly".toList

/-- There are sort keys that differ from the first one. -/
def contradicts (v : Vocabulary) (t : Text) : Bool :=
  (Kind.key.found v t).any fun m => some m.text != (Kind.key.found v t).head?.map (·.text)

theorem sort_eq (v : Vocabulary) (title t : Text) : sort v title t =
    if !v.profile.isMainspace title || toInclude t || contradicts v t || (moved v t).isEmpty then t
    else arranged v t := by
  have hsort : sort v title t =
      if !v.profile.isMainspace title || Text.includes t "<noinclude".toList ||
          Text.includes t "<includeonly".toList then t
      else if contradicts v t then t
      else if ((moved v t).map (Stretch.ofMatch t)).isEmpty then t
      else arranged v t := rfl
  rw [hsort, Bool.or_assoc, ← toInclude, List.isEmpty_map]
  cases !v.profile.isMainspace title || toInclude t <;> cases contradicts v t <;> simp

theorem sort_cases (v : Vocabulary) (title t : Text) :
    sort v title t = t ∨ sort v title t = arranged v t := by
  rw [sort_eq]
  split
  · exact .inl rfl
  · exact .inr rfl

-- -----------------------------------------------------------------------------------------
-- What is written
-- -----------------------------------------------------------------------------------------

theorem spread_join (n : Nat) (ws : List Text) : Spread ws (Text.join (feeds n) ws) := by
  have hall : List.Forall₂ Spread (ws.map fun w => [w]) ws := by
    rw [List.forall₂_map_left_iff, List.forall₂_same]
    exact fun w _ => .word w
  have hjoin := Spread.join n hall
  rwa [← List.flatMap_def, List.flatMap_singleton'] at hjoin

theorem assemble_eq (body : Text) (blocks : List (List Text)) :
    ∃ vs, Woven vs blocks.flatten ∧ assemble body blocks = body ++ vs.flatten := by
  have hall : List.Forall₂ Spread (blocks.filter (!·.isEmpty))
      ((blocks.filter (!·.isEmpty)).map (Text.join (feeds 1))) := by
    rw [List.forall₂_map_right_iff, List.forall₂_same]
    exact fun ws _ => spread_join 1 ws
  obtain ⟨vs, hvs, hjoin⟩ := Spread.join 2 hall
  rw [List.flatten_filter_not_isEmpty] at hvs
  have hassemble : assemble body blocks = Text.join (feeds 2) ((if body.isEmpty then [] else [body]) ++
      (blocks.filter (!·.isEmpty)).map (Text.join (feeds 1))) := rfl
  rw [hassemble]
  generalize (blocks.filter (!·.isEmpty)).map (Text.join (feeds 1)) = lines at hjoin
  cases body with
  | nil => exact ⟨vs, hvs, hjoin⟩
  | cons c body =>
    cases lines with
    | nil => exact ⟨vs, hvs, by simp [Text.join, ← hjoin]⟩
    | cons line lines => exact ⟨_, hvs.feeds 2, by simp [Text.join, ← hjoin]⟩

theorem arranged_eq (v : Vocabulary) (t : Text) : ∃ vs,
    Woven vs (Kind.all.flatMap (block v t)) ∧ arranged v t = body v t ++ vs.flatten := by
  obtain ⟨vs, hvs, he⟩ := assemble_eq (body v t)
    [block v t .key ++ block v t .category, block v t .stub, block v t .interwiki]
  refine ⟨vs, ?_, he⟩
  simpa [Kind.all] using hvs

/-- What is written was found. -/
theorem mem_block {k : Kind} (h : w ∈ block v t k) : ∃ m ∈ k.found v t, m.text = w := by
  cases k with
  | key =>
    obtain ⟨m, hm, rfl⟩ := List.mem_map.mp h
    exact ⟨m, List.mem_of_mem_take hm, rfl⟩
  | category =>
    obtain ⟨m, hm, rfl⟩ := mem_distinctCategories h
    exact ⟨m, hm, rfl⟩
  | stub | interwiki => exact List.mem_map.mp h

section
variable {p : Profile} {v : Vocabulary} (hns : Nameable p.categoryNamespace)
include hns

/-- No metadata comes into being where something that can be moved is put. -/
theorem Movable.tame (h : Movable p v w) (k : Kind) : Tame k.opening k.closing w := by
  rcases h.brackets hns with ⟨henc, hno⟩ | ⟨henc, hno⟩
  · cases k with
    | key | stub => exact .inr ⟨hno, by simp [henc.head, Kind.closing]⟩
    | category | interwiki => exact .inl henc
  · cases k with
    | key | stub => exact .inl henc
    | category | interwiki => exact .inr ⟨hno, by simp [henc.head, Kind.closing]⟩

variable (hv : Vocabulary.ofProfile p = .ok v)
include hv

theorem word_block (h : Tidy v t) {k : Kind} (hw : w ∈ block v t k) (k' : Kind) :
    k'.Word p v w ↔ k' = k := by
  obtain ⟨m, hm, rfl⟩ := mem_block hw
  obtain ⟨a, b, hword, ht, -⟩ := (Kind.mem_found hv hns k t).mp ⟨m, hm, rfl, rfl⟩
  constructor
  · intro hword'
    obtain ⟨m', hm', -, he⟩ := (Kind.mem_found hv hns k' t).mpr ⟨a, b, hword', ht, rfl⟩
    exact h.oneKind k' k m' hm' m hm he
  · rintro rfl
    exact hword

theorem movable_block (h : Tidy v t) {k : Kind} (hw : w ∈ block v t k) : Movable p v w := by
  refine ⟨⟨k, (word_block hns hv h hw k).mpr rfl⟩, ?_⟩
  obtain ⟨m, hm, rfl⟩ := mem_block hw
  exact h.neat k m hm

theorem movable_blocks (h : Tidy v t) : ∀ w ∈ Kind.all.flatMap (block v t), Movable p v w := by
  intro w hw
  obtain ⟨k, -, hw⟩ := List.mem_flatMap.mp hw
  exact movable_block hns hv h hw

open Classical in
theorem filter_blocks (h : Tidy v t) (k : Kind) :
    (Kind.all.flatMap (block v t)).filter (fun w => k.Word p v w) = block v t k := by
  have hone : ∀ k', (block v t k').filter (fun w => k.Word p v w) =
      if k = k' then block v t k' else [] := by
    intro k'
    split
    · rename_i he
      exact List.filter_eq_self.mpr fun w hw => by simpa using (word_block hns hv h hw k).mpr he
    · rename_i hne
      exact List.filter_eq_nil_iff.mpr fun w hw => by
        simpa using fun hword => hne ((word_block hns hv h hw k).mp hword)
  cases k <;> simp [Kind.all, hone]

-- -----------------------------------------------------------------------------------------
-- What is found again
-- -----------------------------------------------------------------------------------------

variable (ht : Tidy v t)
include ht

/-- What stands outside the metadata is the body. -/
theorem visible_unmoved : Text.visible (unmoved v t) = Text.visible (body v t) := by
  obtain ⟨parts, tail, hdiv⟩ := Divided.exists_parts (fun w hw => Movable.ne_nil hns hw) t
  rw [unmoved, Stretch.outside_divided (separate_movable hns) hdiv fun s =>
    mem_stretches_moved hns hv ht, body, Text.visible_trimEnd, visible_excessBlankLines,
    sorted_moved hns hv ht hdiv, (Stretch.remains_removeAll (solid_movable hns) hdiv).visible]

variable (hbody : moved v (body v t) = [])
include hbody

/-- The searches find what was written. -/
theorem texts_found_arranged (k : Kind) :
    (k.found v (arranged v t)).map (·.text) = block v t k := by
  classical
  obtain ⟨vs, hvs, he⟩ := arranged_eq v t
  have henc : ∀ w, k.Word p v w → Enclosed k.opening k.closing w := fun w hw => hw.enclosed hns
  have hoc : k.opening ≠ k.closing := by cases k <;> decide
  have hfeed : k.closing ≠ '\n' := by cases k <;> decide
  have htame : ∀ w ∈ vs, Tame k.opening k.closing w := by
    intro w hw
    rcases hvs.mem hw with hw | ⟨n, rfl⟩
    · exact (movable_blocks hns hv ht w hw).tame hns k
    · exact tame_feeds hfeed n
  have hnone : ∀ n, decide (k.Word p v (feeds n)) = false := fun n =>
    decide_eq_false ((capped_enclosed hfeed henc).not_feeds n)
  obtain ⟨parts, tail, hdiv, hwords⟩ :=
    (Divided.nil (free_of_moved hns hv hbody k)).append hoc henc htame
  rw [← he] at hdiv
  rw [Kind.texts_found hv hns hdiv, hwords, hvs.filter hnone, filter_blocks hns hv ht]
  rfl

theorem mem_found_arranged {k : Kind} (hm : m ∈ k.found v (arranged v t)) :
    ∃ m' ∈ k.found v t, m'.text = m.text := by
  have hmem := List.mem_map_of_mem (f := (·.text)) hm
  rw [texts_found_arranged hns hv ht hbody] at hmem
  exact mem_block hmem

theorem tidy_arranged : Tidy v (arranged v t) where
  neat := by
    intro k m hm
    obtain ⟨m', hm', he⟩ := mem_found_arranged hns hv ht hbody hm
    exact he ▸ ht.neat k m' hm'
  oneKind := by
    intro k k' m hm m' hm' he
    obtain ⟨m₁, hm₁, he₁⟩ := mem_found_arranged hns hv ht hbody hm
    obtain ⟨m₂, hm₂, he₂⟩ := mem_found_arranged hns hv ht hbody hm'
    exact ht.oneKind k k' m₁ hm₁ m₂ hm₂ (he₁.trans (he.trans he₂.symm))

/-- Each category once, in the order in which they come first. -/
theorem names_arranged : (v.category.matches' (arranged v t)).map nameOf =
    (fresh [] (v.category.matches' t)).map nameOf := by
  have htexts := texts_found_arranged hns hv ht hbody .category
  rw [block, distinctCategories_eq] at htexts
  refine map_eq_map_of_eq htexts fun m' hm' m hm he => ?_
  exact nameOf_eq_of_text hv hns hm' (mem_of_mem_fresh hm) he

theorem block_arranged (k : Kind) : block v (arranged v t) k = block v t k := by
  have htexts := texts_found_arranged hns hv ht hbody k
  cases k with
  | key =>
    rw [block, List.map_take, htexts, block, List.map_take, List.take_take, Nat.min_self]
  | category =>
    have hnodup := nodup_names_fresh [] (v.category.matches' t)
    rw [← names_arranged hns hv ht hbody] at hnodup
    rw [← htexts, block, distinctCategories_eq]
    exact congrArg (List.map (·.text)) (fresh_eq_self hnodup fun _ _ => List.not_mem_nil)
  | stub | interwiki => exact htexts

/-- The words that were written are removed again, and of the body only the white space at its end
can go with them. -/
theorem body_arranged : body v (arranged v t) = body v t := by
  have htidy := tidy_arranged hns hv ht hbody
  obtain ⟨vs, hvs, he⟩ := arranged_eq v t
  have hfree : Free (Movable p v) (body v t) := by
    rintro w ⟨⟨k, hw⟩, -⟩
    exact free_of_moved hns hv hbody k w hw
  have htrim : Text.trimEnd (body v t) = body v t := Text.trimEnd_trimEnd _
  have hlines : Free Excess (body v t) :=
    (free_excess _).within (Text.trimEnd_isPrefix _).isInfix
  obtain ⟨parts, tail, b, others, hdiv, -, hgaps, hb, hothers⟩ := hvs.divided
    (capped_movable hns) (free_nil_movable hns) (movable_blocks hns hv ht) hfree
  rw [← he] at hdiv
  have hremains := Stretch.remains_removeAll (solid_movable hns) hdiv
  rw [← sorted_moved hns hv htidy hdiv, hgaps] at hremains
  conv_lhs => rw [body]
  generalize Stretch.removeAll _ _ = out at hremains ⊢
  obtain ⟨k, c, rest, hfirst, hc, rfl, hrest⟩ := hremains.first
  obtain ⟨x, hk, hx⟩ := Text.trimEnd_append k
  have hkept : Text.trimEnd k = body v t := by
    rw [← Text.trimEnd_append_blank hc, ← hfirst, Text.trimEnd_append_blank hb, htrim]
  rw [hkept] at hk
  rw [Text.visible_eq_nil.mpr hothers, Text.visible_eq_nil] at hrest
  rw [hk, List.append_assoc]
  exact trimEnd_excessBlankLines hlines htrim (hx.append hrest)

theorem arranged_arranged : arranged v (arranged v t) = arranged v t :=
  arranged_congr (body_arranged hns hv ht hbody) (block_arranged hns hv ht hbody)

end

-- -----------------------------------------------------------------------------------------
-- What becomes of a text
-- -----------------------------------------------------------------------------------------

/-- The second text has the metadata of the first one, its sort key and the first link of each
category once, and beside it the same characters. -/
structure Rearranged (v : Vocabulary) (t t' : Text) : Prop where
  keys : (Kind.key.found v t').map (·.text) = ((Kind.key.found v t).map (·.text)).take 1
  names : (v.category.matches' t').map nameOf = ((v.category.matches' t).map nameOf).eraseDups
  links : ∀ m' ∈ v.category.matches' t', ∃ m,
    (v.category.matches' t).find? (nameOf · == nameOf m') = some m ∧ m'.text = m.text
  stubs : (stubs v t').map (·.text) = (stubs v t).map (·.text)
  interwikis : (interwikis v t').map (·.text) = (interwikis v t).map (·.text)
  rest : Text.visible (unmoved v t') = Text.visible (unmoved v t)

theorem Rearranged.self (h : moved v t = []) : Rearranged v t t := by
  have hnone : ∀ k : Kind, k.found v t = [] := fun k =>
    List.eq_nil_iff_forall_not_mem.mpr fun m hm => by
      have hmem := mem_moved.mpr ⟨k, hm⟩
      rw [h] at hmem
      cases hmem
  have hlinks : v.category.matches' t = [] := hnone .category
  exact { keys := by simp [hnone], names := by simp [hlinks], links := by simp [hlinks],
          stubs := rfl, interwikis := rfl, rest := rfl }

section
variable {p : Profile} {v : Vocabulary} (hns : Nameable p.categoryNamespace)
  (hv : Vocabulary.ofProfile p = .ok v)
include hns hv

theorem rearranged_arranged (ht : Tidy v t) (hbody : moved v (body v t) = []) :
    Rearranged v t (arranged v t) where
  keys := by rw [texts_found_arranged hns hv ht hbody, block, List.map_take]
  names := by
    rw [names_arranged hns hv ht hbody, names_fresh]
    simp
  links := by
    intro m' hm'
    have htext : m'.text ∈ (Kind.category.found v (arranged v t)).map (·.text) :=
      List.mem_map_of_mem hm'
    rw [texts_found_arranged hns hv ht hbody, block, distinctCategories_eq] at htext
    obtain ⟨m, hm, he⟩ := List.mem_map.mp htext
    rw [nameOf_eq_of_text hv hns hm' (mem_of_mem_fresh hm) he.symm]
    exact ⟨m, (mem_fresh hm).1, he.symm⟩
  stubs := texts_found_arranged hns hv ht hbody .stub
  interwikis := texts_found_arranged hns hv ht hbody .interwiki
  rest := by
    rw [visible_unmoved hns hv (tidy_arranged hns hv ht hbody), body_arranged hns hv ht hbody,
      visible_unmoved hns hv ht]

/-- Metadata that can be told apart is put in order, and then it stays as it is. Texts that are to
be included, and those with contradicting keys, are left alone. -/
theorem sort_rearranges (hmain : v.profile.isMainspace title = true) (t : Text) :
    (toInclude t = true ∨ contradicts v t = true → sort v title t = t) ∧
      (toInclude t = false → contradicts v t = false → Tidy v t → moved v (body v t) = [] →
        Rearranged v t (sort v title t) ∧ sort v title (sort v title t) = sort v title t) := by
  constructor
  · rintro (h | h) <;> simp [sort_eq, h]
  · intro hinclude hkeys ht hbody
    by_cases hmoved : moved v t = []
    · have hsame : sort v title t = t := by simp [sort_eq, hmoved]
      rw [hsame, hsame]
      exact ⟨.self hmoved, rfl⟩
    · have hsort : sort v title t = arranged v t := by
        simp [sort_eq, hmain, hinclude, hkeys, hmoved]
      rw [hsort]
      refine ⟨rearranged_arranged hns hv ht hbody, ?_⟩
      rcases sort_cases v title (arranged v t) with h | h
      · exact h
      · rw [h, arranged_arranged hns hv ht hbody]

end

/-- Metadata of every kind between other words, and a category under two spellings. -/
def mixed : Text :=
  ("[[de:X]]a[[Category:A|k]]\x7b\x7bb stub\x7d\x7d\n[[Category: a]]\n" ++
    "\x7b\x7bDEFAULTSORT:b\x7d\x7dc").toList

def mixedInOrder : Text :=
  ("a\nc\n\n\x7b\x7bDEFAULTSORT:b\x7d\x7d\n[[Category:A|k]]\n\n" ++
    "\x7b\x7bb stub\x7d\x7d\n\n[[de:X]]").toList

theorem sort_rearranges_mixed : ∃ v, Vocabulary.ofProfile .englishWikipedia = .ok v ∧
    (let title := "Foo".toList
    v.profile.isMainspace title = true ∧ toInclude mixed = false ∧ contradicts v mixed = false ∧
      Tidy v mixed ∧ moved v (body v mixed) = [] ∧
        (Rearranged v mixed (sort v title mixed) ∧
          sort v title (sort v title mixed) = sort v title mixed) ∧
        sort v title mixed = mixedInOrder) := by
  have hrun : (Vocabulary.ofProfile .englishWikipedia).toOption.map (fun v =>
      (v.profile.isMainspace "Foo".toList, contradicts v mixed, decide (Tidy v mixed),
        (moved v (body v mixed)).isEmpty, sort v "Foo".toList mixed)) =
      some (true, false, true, true, mixedInOrder) := by
    decide +kernel
  obtain ⟨v, hv, hrun⟩ := Article.exists_ok_of_toOption_map hrun
  simp only [Prod.mk.injEq, decide_eq_true_eq, List.isEmpty_iff] at hrun
  obtain ⟨hmain, hkeys, ht, hbody, hsort⟩ := hrun
  have hinclude : toInclude mixed = false := by decide +kernel
  exact ⟨v, hv, hmain, hinclude, hkeys, ht, hbody,
    (sort_rearranges (by decide) hv hmain mixed).2 hinclude hkeys ht hbody, hsort⟩

/-- A category stays twice in a text that is to be included. -/
theorem sort_keeps_copies_toInclude : ∃ v, Vocabulary.ofProfile .englishWikipedia = .ok v ∧
    (let t := "<noinclude>[[Category:A]]\n[[Category:A]]</noinclude>".toList
    v.profile.isMainspace "Foo".toList = true ∧
      (v.category.matches' (sort v "Foo".toList t)).map nameOf = ["A".toList, "A".toList] ∧
        ((v.category.matches' t).map nameOf).eraseDups = ["A".toList]) := by
  have hrun : (Vocabulary.ofProfile .englishWikipedia).toOption.map (fun v =>
      let t := "<noinclude>[[Category:A]]\n[[Category:A]]</noinclude>".toList
      (v.profile.isMainspace "Foo".toList,
        (v.category.matches' (sort v "Foo".toList t)).map nameOf,
          ((v.category.matches' t).map nameOf).eraseDups)) =
      some (true, ["A".toList, "A".toList], ["A".toList]) := by
    decide +kernel
  obtain ⟨v, hv, hrun⟩ := Article.exists_ok_of_toOption_map hrun
  simp only [Prod.mk.injEq] at hrun
  exact ⟨v, hv, hrun⟩

end Wikitext.Metadata
