import Wikitext.Proofs.Fix.Passes
import Wikitext.Proofs.Fix.Repeats
import Wikitext.Proofs.Reference.Tag

/-!
# Naming repeated references

A pass names the references that repeat each other after names that no tag of the text has. What it
takes away is a content that stands in the text already, so no name gets lost (`carries_nameRepeated`),
and where it changes something, one more of the names for merged references is in use
(`usesUp_nameRepeated`). Their number bounds the passes.
-/

namespace Wikitext.Reference

open Pattern Fix Mask
open Category (SameCaseless)

-- -----------------------------------------------------------------------------------------
-- References without a name
-- -----------------------------------------------------------------------------------------

def unnamedPattern : Pattern := (lit "<ref>").caseless ++ group 1 (many1Lazy anyChar) ++ closing

/-- A reference without a name, with its content. -/
inductive Unnamed (x : Text) : Text → Prop
  | intro : SameCaseless "<ref>".toList o → Closing c → Unnamed x (o ++ (x ++ c))

theorem unnamedRef_eq : unnamedRef = unnamedPattern.compile := by
  have hany : (group 1 (many1Lazy anyChar)).caseless = group 1 (many1Lazy anyChar) := rfl
  rw [unnamedRef, caseless_append, caseless_append, caseless_closingRef, hany]
  rfl

theorem unnamed_of_takes {m : Match} (h : Takes unnamedPattern m b w r) : Unnamed (m.group 1) w := by
  have hforms : unnamedPattern.Forms w m.captures.texts := h.reads.anywhere rfl _ _
  obtain ⟨_, c, _, _, rfl, hgs, h₁, hr₂⟩ := (forms_append rfl rfl).mp hforms
  obtain ⟨o, x, _, _, rfl, rfl, hr₀, hr₁⟩ := (forms_append rfl rfl).mp h₁
  obtain ⟨ho, rfl⟩ := forms_ofText_caseless.mp hr₀
  obtain ⟨_, rfl, hx⟩ := forms_group.mp hr₁
  obtain ⟨-, -, rfl⟩ := forms_run1.mp hx
  obtain ⟨hc, rfl⟩ := forms_closing.mp hr₂
  rw [group_of_texts hgs, List.append_assoc]
  exact .intro ho hc

theorem tag_of_opening (ho : SameCaseless "<ref>".toList o) : Tag o := by
  obtain ⟨f, rfl, hf⟩ := exists_front (t := "ref>".toList) ho
  obtain ⟨f, e, rfl, hf', he⟩ := sameCaseless_append (s := "ref".toList) (t := [('>' : Char)]) hf
  obtain ⟨y, _, hy, ⟨⟩, rfl⟩ := List.forall₂_cons_left_iff.mp he
  rw [anyCase_single (by decide)] at hy
  obtain rfl := eq_of_beq hy
  exact .intro (inside_of_sameCaseless ⟨by decide, by decide⟩ hf')

/-- A tag with a name has an equals sign, which the tags of these references have not. -/
theorem equals_mem_nameTag (h : NameTag name w) : '=' ∈ w := by
  obtain ⟨-, ⟨-, -, -, -⟩, -, -⟩ := h
  simp

theorem equals_not_mem_opening (ho : SameCaseless "<ref>".toList o) : '=' ∉ o :=
  not_mem_of_sameCaseless (by decide) (by decide) ho

theorem Closing.equals_not_mem (h : Closing c) : '=' ∉ c := by
  obtain ⟨hf, hb⟩ := h
  simp only [List.mem_append, List.mem_singleton, not_or]
  exact ⟨not_mem_of_sameCaseless (by decide) (by decide) hf, hb.not_mem (by decide), by decide⟩

theorem Unnamed.content_isInfix (h : Unnamed x w) : x <:+: w := by
  obtain @⟨o, c, -, -⟩ := h
  exact ⟨o, c, List.append_assoc o x c⟩

/-- A tag with a name that stands in front of, in or behind such a reference. -/
theorem Unnamed.tag_cases (h : Unnamed x w) (hv : Tag v) (heq : '=' ∈ v) (hi : v <:+: u ++ (w ++ r)) :
    v <:+: u ∨ v <:+: x ∨ v <:+: r := by
  obtain ⟨ho, hc⟩ := h
  simp only [List.append_assoc] at hi
  rcases separate_tag.word_cases hv (tag_of_opening ho) hi with hi | rfl | hi
  · exact .inl hi
  · exact absurd heq (equals_not_mem_opening ho)
  rcases separate_tag.word_cases hv hc.tag hi with hi | rfl | hi
  · exact .inr (.inl hi)
  · exact absurd heq hc.equals_not_mem
  · exact .inr (.inr hi)

-- -----------------------------------------------------------------------------------------
-- What is written
-- -----------------------------------------------------------------------------------------

/-- The tag of a reference that gets a name. -/
def openTag (name : Text) : Text := "<ref name=\"".toList ++ name ++ "\">".toList

theorem nameTag_openTag (name : Text) : NameTag name (openTag name) := by
  have hvalue : Value name ([] ++ (['"'] ++ (name ++ (['"'] ++ [])))) :=
    .intro blank_nil (.inr rfl) (.inr rfl) blank_nil
  have h := NameTag.intro (Category.sameCaseless_self _) key_standard hvalue (.inl rfl)
  have hfirst : "<ref name=\"".toList = "<ref".toList ++ (" name=".toList ++ ['"']) := by decide
  have hlast : "\">".toList = ['"'] ++ ['>'] := by decide
  have hsplit : openTag name = _ := congrArg₂ (fun first last => first ++ name ++ last) hfirst hlast
  rw [hsplit]
  simpa only [List.append_assoc, List.nil_append] using h

-- -----------------------------------------------------------------------------------------
-- One reference
-- -----------------------------------------------------------------------------------------

variable {m : Match} {s : Naming}

/-- What becomes of one reference: it stays, it refers to one that was named before, or it gets the
next name. -/
inductive Outcome (m : Match) (s : Naming) : Text × Naming → Prop
  | kept : (∀ e ∈ given, e ∈ s.given ∨ e.2 = none) → s.given ⊆ given →
      Outcome m s (m.text, { s with given })
  | refers : (Text.trim (m.group 1), some name) ∈ s.given → Outcome m s (reuseTag name, s)
  | named : s.free = name :: free → Outcome m s (openTag name ++ m.group 1 ++ "</ref>".toList,
      { free, given := (Text.trim (m.group 1), some name) :: s.given })

theorem outcome_nameOne (keys : List Text) (m : Match) (s : Naming) :
    Outcome m s (nameOne keys m s) := by
  have hsame : Outcome m s (m.text, s) := .kept (fun _ h => .inl h) (List.Subset.refl _)
  unfold nameOne
  dsimp only
  split
  · exact hsame
  split
  · rename_i name hlookup
    obtain ⟨_, _, heq, -⟩ := List.lookup_eq_some_iff.mp hlookup
    exact .refers (heq ▸ List.mem_append_right _ List.mem_cons_self)
  · exact hsame
  split
  · refine .kept (fun e he => ?_) (List.subset_cons_self _ _)
    rcases List.mem_cons.mp he with rfl | he
    · exact .inr rfl
    · exact .inl he
  · rename_i name free hfree
    exact .named hfree

/-- Of every content that was given a name the text has a copy, and a tag with the name. -/
def Upheld (out : Text) (s : Naming) : Prop :=
  ∀ e ∈ s.given, ∀ name ∈ e.2, e.1 <:+: out ∧ openTag name <:+: out

theorem Upheld.append (h : Upheld out s) (v : Text) : Upheld (out ++ v) s := fun e he name hn =>
  have hout := (List.prefix_append out v).isInfix
  ⟨(h e he name hn).1.trans hout, (h e he name hn).2.trans hout⟩

/-- All names, those that are left and those that were given, are among these. -/
structure Within (names : List Text) (s : Naming) : Prop where
  free : s.free ⊆ names
  given : ∀ e ∈ s.given, ∀ name ∈ e.2, name ∈ names

theorem Outcome.given_subset (ho : Outcome m s made) : s.given ⊆ made.2.given := by
  cases ho with
  | kept _ hsub => exact hsub
  | refers => exact List.Subset.refl _
  | named => exact List.subset_cons_self _ _

theorem Outcome.within (ho : Outcome m s made) (hs : Within names s) : Within names made.2 := by
  cases ho with
  | kept hgiven _ =>
    refine ⟨hs.free, fun e he name hn => ?_⟩
    rcases hgiven e he with he | hnone
    · exact hs.given e he name hn
    · rw [hnone] at hn
      cases hn
  | refers => exact hs
  | @named name free hfree =>
    have hnames := hs.free
    rw [hfree, List.cons_subset] at hnames
    refine ⟨hnames.2, fun e he name' hn => ?_⟩
    rcases List.mem_cons.mp he with rfl | he
    · obtain rfl : name = name' := by simpa using hn
      exact hnames.1
    · exact hs.given e he name' hn

section
variable {made : Text × Naming} (ho : Outcome m s made) (hs : Upheld out s)
include ho hs

theorem Outcome.upheld : Upheld (out ++ made.1) made.2 := by
  cases ho with
  | kept hgiven _ =>
    intro e he name hn
    rcases hgiven e he with he | hnone
    · exact hs.append _ e he name hn
    · rw [hnone] at hn
      cases hn
  | refers _ => exact hs.append _
  | @named name free _ =>
    intro e he name' hn
    rcases List.mem_cons.mp he with rfl | he
    · obtain rfl : name = name' := by simpa using hn
      have hkey := Text.trim_isInfix (m.group 1)
      exact ⟨hkey.trans ⟨out ++ openTag name, "</ref>".toList, by simp⟩,
        ⟨out, m.group 1 ++ "</ref>".toList, by simp⟩⟩
    · exact hs.append _ e he name' hn

/-- A tag in the content of a reference is still there: the content is, if not here, then where the
name was given. -/
theorem Outcome.tag_mem (hx : Unnamed (m.group 1) m.text) (hv : Tag v) (hi : v <:+: m.group 1) :
    v <:+: out ++ made.1 := by
  cases ho with
  | kept => exact hi.trans (hx.content_isInfix.trans (List.suffix_append out _).isInfix)
  | refers hgiven => exact (hv.in_trim hi).trans ((hs _ hgiven _ rfl).1.trans (List.prefix_append _ _).isInfix)
  | @named name _ _ => exact hi.trans ⟨out ++ openTag name, "</ref>".toList, by simp⟩

end

-- -----------------------------------------------------------------------------------------
-- One pass
-- -----------------------------------------------------------------------------------------

theorem prefix_foldl (f : Match → σ → Text × σ) (ps : List Piece) (made : Text × σ) :
    made.1 <+: (ps.foldl (replacePiece f) made).1 := by
  induction ps generalizing made with
  | nil => exact List.prefix_refl _
  | cons piece ps ih =>
    have hnext : made.1 <+: (replacePiece f made piece).1 := by
      cases piece <;> exact List.prefix_append _ _
    exact hnext.trans (ih _)

theorem upheld_foldl (h : Upheld out s) (ps : List Piece) :
    Upheld (ps.foldl (replacePiece (nameOne keys)) (out, s)).1
      (ps.foldl (replacePiece (nameOne keys)) (out, s)).2 := by
  induction ps generalizing out s with
  | nil => exact h
  | cons piece ps ih =>
    cases piece with
    | kept u => exact ih (h.append u)
    | hit m => exact ih ((outcome_nameOne keys m s).upheld h)

/-- By induction on the pieces; `u` is what was kept since the last reference. -/
theorem tag_mem_foldl (hc : Cuts unnamedPattern b r ps) (hs : Upheld (out ++ u) s) (hv : Tag v)
    (heq : '=' ∈ v) (hi : v <:+: u ++ r) :
    v <:+: (ps.foldl (replacePiece (nameOne keys)) (out ++ u, s)).1 := by
  induction hc generalizing out u s with
  | nil =>
    rw [List.append_nil] at hi
    exact hi.trans (List.suffix_append out u).isInfix
  | @kept b w r ps _ ih =>
    rw [← List.append_assoc] at hi
    have hnext : v <:+: (ps.foldl (replacePiece (nameOne keys)) (out ++ (u ++ w), s)).1 :=
      ih (by rw [← List.append_assoc]; exact hs.append w) hi
    rwa [← List.append_assoc] at hnext
  | @hit m b w r ps hm _ ih =>
    have hx := unnamed_of_takes hm
    have ho := outcome_nameOne keys m s
    have hfinal : (out ++ u) ++ (nameOne keys m s).1 <+:
        (ps.foldl (replacePiece (nameOne keys)) ((out ++ u) ++ (nameOne keys m s).1,
          (nameOne keys m s).2)).1 := prefix_foldl _ ps (_, _)
    rcases hx.tag_cases hv heq hi with hi | hi | hi
    · have hout := hi.trans (List.suffix_append out u).isInfix
      exact hout.trans ((List.prefix_append _ _).trans hfinal).isInfix
    · exact (ho.tag_mem hs (hm.text.symm ▸ hx) hv hi).trans hfinal.isInfix
    · have hnext : v <:+: (ps.foldl (replacePiece (nameOne keys)) ((out ++ u) ++ (nameOne keys m s).1 ++ [],
          (nameOne keys m s).2)).1 := ih (by rw [List.append_nil]; exact ho.upheld hs) hi
      rwa [List.append_nil] at hnext

theorem given_subset_foldl (keys : List Text) (ps : List Piece) (out : Text) (s : Naming) :
    s.given ⊆ (ps.foldl (replacePiece (nameOne keys)) (out, s)).2.given := by
  induction ps generalizing out s with
  | nil => exact List.Subset.refl _
  | cons piece ps ih =>
    cases piece with
    | kept u => exact ih _ s
    | hit m => exact List.Subset.trans (outcome_nameOne keys m s).given_subset (ih _ _)

theorem within_foldl (hs : Within names s) (ps : List Piece) (out : Text) :
    Within names (ps.foldl (replacePiece (nameOne keys)) (out, s)).2 := by
  induction ps generalizing out s with
  | nil => exact hs
  | cons piece ps ih =>
    cases piece with
    | kept u => exact ih hs _
    | hit m => exact ih ((outcome_nameOne keys m s).within hs) _

/-- A pass that gives no name changes nothing. -/
theorem foldl_eq_or_named (hc : Cuts unnamedPattern b r ps) (keys : List Text) (out : Text) (s : Naming) :
    (ps.foldl (replacePiece (nameOne keys)) (out, s)).1 = out ++ r ∨
      ∃ key name, (key, some name) ∈ (ps.foldl (replacePiece (nameOne keys)) (out, s)).2.given := by
  induction hc generalizing out s with
  | nil => exact .inl (List.append_nil out).symm
  | @kept b w r ps _ ih =>
    rw [← List.append_assoc]
    exact ih _ s
  | @hit m b w r ps hm _ ih =>
    obtain rfl := hm.text
    have ho := outcome_nameOne keys m s
    have hgiven := given_subset_foldl keys ps (out ++ (nameOne keys m s).1)
      (nameOne keys m s).2
    have ih := ih (out ++ (nameOne keys m s).1) (nameOne keys m s).2
    rw [List.foldl_cons, replacePiece]
    generalize nameOne keys m s = made at ho hgiven ih ⊢
    cases ho with
    | kept => simpa only [List.append_assoc] using ih
    | refers h => exact .inr ⟨_, _, hgiven h⟩
    | named => exact .inr ⟨_, _, hgiven List.mem_cons_self⟩

-- -----------------------------------------------------------------------------------------
-- The names that are left
-- -----------------------------------------------------------------------------------------

/-- The contents of the references without a name. -/
def contents (t : Text) : List Text := (unnamedRef.matches' t).map fun m => Text.trim (m.group 1)

/-- The names for merged references that the text does not use yet. -/
def freeNames (t : Text) : List Text :=
  mergedNames.filter fun name => !((namedTag.matches' t).map (·.group 1)).contains name

/-- A pass, with the names that it has given. -/
def pass (t : Text) : Text × Naming :=
  unnamedRef.replaceWith (nameOne (contents t)) { free := freeNames t, given := [] } t

theorem nameRepeated_eq (t : Text) : nameRepeated t = (pass t).1 := rfl

theorem pass_eq (t : Text) : pass t = (unnamedPattern.compile.pieces t).foldl
    (replacePiece (nameOne (contents t))) ([], { free := freeNames t, given := [] }) := by
  rw [pass, replaceWith_eq, unnamedRef_eq]

theorem bare_of_mem_mergedNames (h : name ∈ mergedNames) : Bare name := by
  have hall : ∀ name ∈ mergedNames, name ≠ [] ∧
      (∀ c ∈ name, (!"\"<>/".toList.contains c) = true) ∧ Text.trim name = name := by
    decide
  obtain ⟨hne, hnameable, htrimmed⟩ := hall name h
  exact ⟨hne, hnameable, htrimmed⟩

theorem mem_freeNames : name ∈ freeNames t ↔ name ∈ mergedNames ∧ ¬ Carries t name := by
  rw [freeNames, List.mem_filter]
  refine and_congr_right fun h => ?_
  rw [Bool.not_eq_true', ← Bool.not_eq_true, List.contains_iff_mem, named_iff (bare_of_mem_mergedNames h)]

/-- No name gets lost. -/
theorem carries_nameRepeated (hname : Nameable name) (h : Carries t name) :
    Carries (nameRepeated t) name := by
  obtain ⟨w, hw, hi⟩ := h
  refine ⟨w, hw, ?_⟩
  have hstart : Upheld ([] ++ []) { free := freeNames t, given := [] } := by simp [Upheld]
  rw [nameRepeated_eq, pass_eq]
  exact tag_mem_foldl (u := []) (Regex.cuts_pieces _ t) hstart (hw.tag hname) (equals_mem_nameTag hw) hi

theorem given_pass (h : (key, some name) ∈ (pass t).2.given) :
    name ∈ freeNames t ∧ Carries (nameRepeated t) name := by
  have hupheld : Upheld [] { free := freeNames t, given := [] } := by simp [Upheld]
  have hwithin : Within (freeNames t) { free := freeNames t, given := [] } :=
    ⟨List.Subset.refl _, by simp⟩
  rw [nameRepeated_eq]
  rw [pass_eq] at h ⊢
  exact ⟨(within_foldl hwithin _ _).given _ h name rfl,
    _, nameTag_openTag name, (upheld_foldl hupheld _ _ h name rfl).2⟩

theorem carries_iterate (hname : Nameable name) (h : Carries t name) (n : Nat) :
    Carries (nameRepeated^[n] t) name := by
  induction n generalizing t with
  | zero => exact h
  | succ n ih => exact ih (carries_nameRepeated hname h)

/-- The name that a pass gives is new to the text that the first pass started with, as far as its
tags have the name in front of the bracket, bare or in double quotes. -/
theorem given_fresh (h : (key, some name) ∈ (pass (nameRepeated^[n] t)).2.given) :
    name ∈ mergedNames ∧ ¬ Carries t name := by
  obtain ⟨hmem, hno⟩ := mem_freeNames.mp (given_pass h).1
  exact ⟨hmem, fun hc => hno (carries_iterate (bare_of_mem_mergedNames hmem).nameable hc n)⟩

/-- Single quotes are part of the name. -/
example : mergeUnnamed "<ref name='ReferenceA'>z</ref> <ref>x</ref> <ref>x</ref>".toList =
    "<ref name='ReferenceA'>z</ref> <ref name=\"ReferenceA\">x</ref> <ref name=\"ReferenceA\" />".toList := by
  decide +kernel

/-- Every pass that changes something leaves fewer names. -/
theorem usesUp_nameRepeated : UsesUp (fun t => (freeNames t).length) nameRepeated := by
  intro t hchange
  have hnamed : ∃ key name, (key, some name) ∈ (pass t).2.given := by
    have hor := foldl_eq_or_named (Regex.cuts_pieces unnamedPattern t) (contents t) []
      { free := freeNames t, given := [] }
    rw [← pass_eq, ← nameRepeated_eq] at hor
    exact hor.resolve_left hchange
  obtain ⟨key, name, hgiven⟩ := hnamed
  obtain ⟨hfree, hcarried⟩ := given_pass hgiven
  have hmore : name :: freeNames (nameRepeated t) ⊆ freeNames t := by
    refine List.cons_subset.mpr ⟨hfree, fun other hother => ?_⟩
    obtain ⟨hmem, hno⟩ := mem_freeNames.mp hother
    have hnameable := (bare_of_mem_mergedNames hmem).nameable
    exact mem_freeNames.mpr ⟨hmem, fun h => hno (carries_nameRepeated hnameable h)⟩
  have hnodup : (name :: freeNames (nameRepeated t)).Nodup := by
    have hall : mergedNames.Nodup := by decide
    exact List.nodup_cons.mpr ⟨fun h => (mem_freeNames.mp h).2 hcarried, hall.filter _⟩
  exact (List.subperm_of_subset hnodup hmore).length_le

-- -----------------------------------------------------------------------------------------
-- What is left to do
-- -----------------------------------------------------------------------------------------

/-- A reference that gets a name does not look as before. -/
theorem openTag_append_ne (ho : SameCaseless "<ref>".toList o) : openTag name ++ x ≠ o ++ y := by
  intro h
  have hlen : o.length = 5 := ho.length_eq.symm
  have hright : (o ++ y).take 5 = o := by rw [← hlen, List.take_left]
  have hleft : (openTag name ++ x).take 5 = "<ref ".toList := rfl
  rw [h, hright] at hleft
  rw [hleft] at ho
  exact absurd ho (by decide)

/-- Where a pass with names to give changes nothing, no content is repeated. -/
theorem count_lt_of_foldl_eq (hc : Cuts unnamedPattern b r ps) (keys : List Text)
    (hfree : free = name :: others)
    (h : (ps.foldl (replacePiece (nameOne keys)) (out, { free, given := [] })).1 = out ++ r) :
    ∀ m ∈ hits ps, keys.count (Text.trim (m.group 1)) < 2 := by
  induction hc generalizing out with
  | nil => simp [hits]
  | @kept b w r ps _ ih =>
    rw [← List.append_assoc] at h
    exact ih h
  | @hit m b w r ps hm _ ih =>
    by_cases hcount : keys.count (Text.trim (m.group 1)) < 2
    · have hkept : nameOne keys m { free, given := [] } = (m.text, { free, given := [] }) := if_pos hcount
      rw [List.foldl_cons, replacePiece, hkept, hm.text, ← List.append_assoc] at h
      exact List.forall_mem_cons.mpr ⟨hcount, ih h⟩
    · exfalso
      have hnamed : nameOne keys m { free, given := [] } = (openTag name ++ m.group 1 ++ "</ref>".toList,
          { free := others, given := [(Text.trim (m.group 1), some name)] }) := by
        simp only [nameOne, if_neg hcount, hfree]
        rfl
      rw [List.foldl_cons, replacePiece, hnamed] at h
      obtain ⟨z, hz⟩ := prefix_foldl (nameOne keys) ps (out ++ (openTag name ++ m.group 1 ++ "</ref>".toList),
        { free := others, given := [(Text.trim (m.group 1), some name)] })
      rw [h] at hz
      obtain ⟨o, y, ho, hw⟩ : ∃ o y, SameCaseless "<ref>".toList o ∧ w = o ++ y := by
        obtain ⟨ho, -⟩ := unnamed_of_takes hm
        exact ⟨_, _, ho, rfl⟩
      rw [hw] at hz
      simp only [List.append_assoc, List.append_cancel_left_eq] at hz
      exact openTag_append_ne ho hz

theorem mergeUnnamed_fixed (t : Text) : nameRepeated (mergeUnnamed t) = mergeUnnamed t := by
  refine untilStable_settled usesUp_nameRepeated ?_
  calc (freeNames t).length ≤ mergedNames.length := List.length_filter_le _ _
    _ ≤ maxPasses := by decide

/-- Where there are names left, a pass comes to rest when no content is repeated. -/
theorem contents_nodup (hfixed : nameRepeated t = t) (hfree : freeNames t ≠ []) :
    (contents t).Nodup := by
  obtain ⟨name, others, hnames⟩ := List.exists_cons_of_ne_nil hfree
  rw [nameRepeated_eq, pass_eq] at hfixed
  have hless := count_lt_of_foldl_eq (Regex.cuts_pieces unnamedPattern t) (contents t) hnames hfixed
  refine List.nodup_iff_count_le_one.mpr fun x => ?_
  by_cases hx : x ∈ contents t
  · obtain ⟨m, hm, rfl⟩ := List.mem_map.mp hx
    rw [unnamedRef_eq, matches_eq_hits] at hm
    exact Nat.le_of_lt_succ (hless m hm)
  · rw [List.count_eq_zero.mpr hx]
    exact Nat.zero_le 1

/-- Merging is idempotent, and ends with no content repeated or with no name left. -/
theorem mergeUnnamed_settles (t : Text) : mergeUnnamed (mergeUnnamed t) = mergeUnnamed t ∧
    ((contents (mergeUnnamed t)).Nodup ∨ ∀ name ∈ mergedNames, Carries (mergeUnnamed t) name) := by
  have hfixed := mergeUnnamed_fixed t
  refine ⟨untilStable_of_fixed hfixed, ?_⟩
  by_cases hfree : freeNames (mergeUnnamed t) = []
  · refine .inr fun name hname => ?_
    by_contra hno
    have hmem : name ∈ freeNames (mergeUnnamed t) := mem_freeNames.mpr ⟨hname, hno⟩
    rw [hfree] at hmem
    cases hmem
  · exact .inl (contents_nodup hfixed hfree)

end Wikitext.Reference
