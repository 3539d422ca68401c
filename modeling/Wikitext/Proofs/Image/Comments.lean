import Wikitext.Proofs.Article.Log
import Wikitext.Proofs.Brackets.Pairs
import Wikitext.Proofs.Image.Link
import Wikitext.Proofs.Text.Division

/-!
# Images that are commented out

A comment begins with `<!--` and ends at the next `-->`, or else with the text; comments do not nest.
A text without its comments is put together from its parts without theirs, unless a mark of a comment
lies across the border of two parts (`strip_append`).

If the links to a file stand in the open, and no mark of a comment is in one of them, a reader no
longer sees them when they are commented out, and sees all that stands around them
(`commentOut_hides`). The links are still found in their comments: only a text without links to the
file stays as it is when it is gone over again (`commentOut_again_iff`).
-/

namespace Wikitext

-- -----------------------------------------------------------------------------------------
-- Texts without their comments
-- -----------------------------------------------------------------------------------------

def commentOpening : Text := "<!--".toList

def commentClosing : Text := "-->".toList

/-- The text without its comments, and whether a comment is open behind it. The first argument says
whether one is open in front of it. -/
def strip : Bool → Text → Text × Bool
  | hidden, [] => ([], hidden)
  | false, '<' :: '!' :: '-' :: '-' :: t => strip true t
  | true, '-' :: '-' :: '>' :: t => strip false t
  | false, c :: t => (c :: (strip false t).1, (strip false t).2)
  | true, _ :: t => strip true t

/-- What a reader sees of a text. -/
def uncommented (t : Text) : Text := (strip false t).1

/-- Every comment of the text ends in it. -/
def CommentsEnd (t : Text) : Prop := (strip false t).2 = false

/-- No mark of a comment lies across the border of the two texts: the first one does not end like the
front of a mark, or the second one does not begin like the rest of one. -/
def MarksApart (u v : Text) : Prop :=
  (∀ c ∈ u.getLast?, c ∉ "<!-".toList) ∨ ∀ c ∈ v.head?, c ∉ "!->".toList

theorem MarksApart.tail (h : MarksApart (c :: u) v) : MarksApart u v := by
  refine h.imp_left fun h d hd => h d ?_
  cases u with
  | nil => cases hd
  | cons => rwa [List.getLast?_cons_cons]

theorem strip_opening (t : Text) : strip false (commentOpening ++ t) = strip true t := rfl

theorem strip_closing (t : Text) : strip true (commentClosing ++ t) = strip false t := rfl

theorem strip_shown (h : ¬ commentOpening <+: c :: t) :
    strip false (c :: t) = (c :: (strip false t).1, (strip false t).2) := by
  rw [strip]
  rintro t' rfl rfl
  exact h ⟨t', rfl⟩

theorem strip_hidden (h : ¬ commentClosing <+: c :: t) : strip true (c :: t) = strip true t := by
  rw [strip]
  rintro t' rfl rfl
  exact h ⟨t', rfl⟩

/-- The marks of comments. -/
def IsMark (mark : Text) : Prop := mark = commentOpening ∨ mark = commentClosing

/-- A mark that begins in the first text ends in it. -/
theorem MarksApart.begins (h : MarksApart u v) (hu : u ≠ []) (hmark : IsMark mark) (hm : mark <+: u ++ v) :
    mark <+: u := by
  rcases prefix_append_cases hm with hm | ⟨k, rfl, r, rfl⟩
  · exact hm
  · rcases eq_or_ne k [] with rfl | hk
    · simp
    have hends : u <+: (u ++ k).dropLast := by
      rw [List.dropLast_append_of_ne_nil hk]
      exact List.prefix_append _ _
    have hbegins : k <:+ (u ++ k).tail := by
      rw [List.tail_append_of_ne_nil hu]
      exact List.suffix_append _ _
    have hall : ∀ mark, IsMark mark →
        (∀ c ∈ mark.dropLast, c ∈ "<!-".toList) ∧ ∀ c ∈ mark.tail, c ∈ "!->".toList := by
      rintro _ (rfl | rfl) <;> simp [commentOpening, commentClosing]
    obtain ⟨hfront, hrest⟩ := hall _ hmark
    rcases h with h | h
    · have hlast := List.getLast?_eq_some_getLast hu
      exact absurd (hfront _ (hends.subset (List.getLast_mem hu))) (h _ hlast)
    · have hhead : (k ++ r).head? = some (k.head hk) := by
        rw [List.head?_append_of_ne_nil _ hk, List.head?_eq_some_head]
      exact absurd (hrest _ (hbegins.subset (List.head_mem hk))) (h _ hhead)

theorem strip_append (h : MarksApart u v) (hidden : Bool) : strip hidden (u ++ v) =
    ((strip hidden u).1 ++ (strip (strip hidden u).2 v).1, (strip (strip hidden u).2 v).2) := by
  fun_induction strip hidden u with
  | case1 => simp
  | case2 u ih => exact ih h.tail.tail.tail.tail
  | case3 u ih => exact ih h.tail.tail.tail
  | case4 c u hno ih =>
    have hmark : ¬ commentOpening <+: c :: (u ++ v) := fun hm => by
      obtain ⟨t, ht⟩ := h.begins (List.cons_ne_nil c u) (.inl rfl) hm
      obtain ⟨rfl, rfl⟩ := List.cons.inj ht
      exact hno t rfl rfl
    rw [List.cons_append, strip_shown hmark, ih h.tail]
    rfl
  | case5 c u hno ih =>
    have hmark : ¬ commentClosing <+: c :: (u ++ v) := fun hm => by
      obtain ⟨t, ht⟩ := h.begins (List.cons_ne_nil c u) (.inr rfl) hm
      obtain ⟨rfl, rfl⟩ := List.cons.inj ht
      exact hno t rfl rfl
    rw [List.cons_append, strip_hidden hmark, ih h.tail]

/-- A mark that does not have the character lies on one side of it. -/
theorem not_infix_join {mark u v : Text} (hd : d ∉ mark) (hu : ¬ mark <:+: u) (hv : ¬ mark <:+: v) :
    ¬ mark <:+: u ++ d :: v := by
  rintro ⟨a, r, h⟩
  rw [List.append_assoc] at h
  rcases append_cases_of_not_mem hd h with ⟨k, rfl, -⟩ | ⟨k, -, rfl⟩
  · exact hu ⟨a, k, List.append_assoc ..⟩
  · exact hv ⟨k, r, List.append_assoc ..⟩

/-- Where no comment begins, all is visible. -/
theorem strip_of_no_opening (h : ¬ commentOpening <:+: t) : strip false t = (t, false) := by
  induction t with
  | nil => rfl
  | cons c t ih =>
    rw [strip_shown fun hp => h hp.isInfix, ih fun hi => h (hi.trans (List.suffix_cons c t).isInfix)]

/-- Where no comment ends, nothing is. -/
theorem strip_of_no_closing (h : ¬ commentClosing <:+: t) : strip true t = ([], true) := by
  induction t with
  | nil => rfl
  | cons c t ih =>
    rw [strip_hidden fun hp => h hp.isInfix, ih fun hi => h (hi.trans (List.suffix_cons c t).isInfix)]

theorem uncommented_append (h : MarksApart u v) (hu : CommentsEnd u) :
    uncommented (u ++ v) = uncommented u ++ uncommented v := by
  rw [uncommented, strip_append h, hu]
  rfl

/-- What stands between the marks of a comment is left out. -/
theorem uncommented_comment (hx : ¬ commentClosing <:+: x) (hend : ∀ c ∈ x.getLast?, c ∉ "<!-".toList)
    (r : Text) : uncommented (commentOpening ++ (x ++ (commentClosing ++ r))) = uncommented r := by
  rw [uncommented, strip_opening, strip_append (.inl hend), strip_of_no_closing hx, strip_closing]
  rfl

end Wikitext

namespace Wikitext.Image

open Pattern
open Category (Gap)
open Wikitext.Bracket (Level Deep level_of_not_mem level_flatten level_of_unbalancedBracket? free_flatten)

-- -----------------------------------------------------------------------------------------
-- Links in comments
-- -----------------------------------------------------------------------------------------

/-- What stands in front of a link in its comment, up to the space between them. -/
def note (comment : Text) : Text :=
  if (Text.trim comment).isEmpty then [] else ' ' :: Text.trim comment

def wrapped (comment w : Text) : Text :=
  commentOpening ++ (note comment ++ ' ' :: (w ++ [' ']) ++ commentClosing)

theorem commentOut_eq (v : Vocabulary) (name comment t : Text) : commentOut v name comment t =
    (link v name).compile.replaceAll (fun m => wrapped comment m.text) t := by
  refine congrArg (fun f => (link v name).compile.replaceAll f t) (funext fun m => ?_)
  cases h : (Text.trim comment).isEmpty <;> simp [wrapped, note, h, commentOpening, commentClosing]

theorem not_infix_note (hc : ¬ commentClosing <:+: comment) : ¬ commentClosing <:+: note comment := by
  have hnil : ¬ commentClosing <:+: [] := by decide
  unfold note
  split
  · exact hnil
  · have htrim : ¬ commentClosing <:+: Text.trim comment := fun h => hc (h.trans (Text.trim_isInfix _))
    exact not_infix_join (u := []) (by decide) hnil htrim

/-- Nothing is visible of a link in its comment. -/
theorem uncommented_wrapped (hc : ¬ commentClosing <:+: comment) (hw : ¬ commentClosing <:+: w)
    (r : Text) : uncommented (wrapped comment w ++ r) = uncommented r := by
  have hnil : ¬ commentClosing <:+: [] := by decide
  have hspace : ' ' ∉ commentClosing := by decide
  have hx : ¬ commentClosing <:+: note comment ++ ' ' :: (w ++ [' ']) :=
    not_infix_join hspace (not_infix_note hc) (not_infix_join hspace hw hnil)
  have hlast : (note comment ++ ' ' :: (w ++ [' '])).getLast? = some ' ' := by
    rw [← List.cons_append, ← List.append_assoc, List.getLast?_concat]
  have hcomment := uncommented_comment hx (by rw [hlast]; simp) r
  simpa [wrapped] using hcomment

/-- A link is visible if no comment begins in it. -/
theorem uncommented_link (hw : (link v name).Words w) (ho : ¬ commentOpening <:+: w) (r : Text) :
    uncommented (w ++ r) = w ++ uncommented r := by
  have hshown := strip_of_no_opening ho
  obtain ⟨f, k, -, -, rfl⟩ := words_link.mp hw
  have hlast : (f ++ (k ++ "]]".toList)).getLast? = some ']' := by simp
  rw [uncommented_append (.inl (by rw [hlast]; simp)) (by rw [CommentsEnd, hshown]), uncommented, hshown]

theorem head_link (hw : (link v name).Words w) : w.head? = some '[' := by
  obtain ⟨f, k, ⟨⟩, -, rfl⟩ := words_link.mp hw
  rfl

/-- What is visible of the gaps in front of the links, and what of the links as they are written
now, if every comment ends in its gap. -/
theorem uncommented_parts {parts : List (Text × Match)} {g s : Match → Text}
    (hsettled : ∀ part ∈ parts, CommentsEnd part.1)
    (hhead : ∀ part ∈ parts, ∃ c, (g part.2).head? = some c ∧ c ∉ "!->".toList)
    (hshown : ∀ part ∈ parts, ∀ r, uncommented (g part.2 ++ r) = s part.2 ++ uncommented r) :
    uncommented (parts.flatMap (fun part => part.1 ++ g part.2) ++ tail) =
      parts.flatMap (fun part => uncommented part.1 ++ s part.2) ++ uncommented tail := by
  induction parts with
  | nil => rfl
  | cons part parts ih =>
    rw [List.forall_mem_cons] at hsettled hhead hshown
    obtain ⟨c, hc, hmark⟩ := hhead.1
    simp only [List.flatMap_cons, List.append_assoc] at ih ⊢
    have happart :
        MarksApart part.1 (g part.2 ++ (parts.flatMap (fun part => part.1 ++ g part.2) ++ tail)) := by
      refine .inr fun d hd => ?_
      rw [List.head?_append, hc] at hd
      exact Option.some.inj hd ▸ hmark
    rw [uncommented_append happart hsettled.1, hshown.1, ih hsettled.2 hhead.2 hshown.2]

-- -----------------------------------------------------------------------------------------
-- Links in the open
-- -----------------------------------------------------------------------------------------

/-- The links to the file stand in no comment, and no mark of a comment is in them. -/
structure InOpen (v : Vocabulary) (name t : Text) : Prop where
  gaps : ∀ u ∈ ((linkTo v name).outside t).dropLast, CommentsEnd u
  links : ∀ m ∈ (linkTo v name).matches' t,
    ¬ commentOpening <:+: m.text ∧ ¬ commentClosing <:+: m.text

/-- A profile and a name without square brackets. -/
structure Bracketless (v : Vocabulary) (name : Text) : Prop where
  name : ∀ d ∈ "[]".toList, d ∉ name
  namespaces : ∀ ns ∈ v.profile.fileNamespaces, ∀ d ∈ "[]".toList, d ∉ ns

theorem level_caption (hk : caption.Words k) : Level k := by
  have hplain : ∀ {t}, (many (noneOf "[]")).Words t → Level t := by
    rintro t ⟨gs, ht⟩
    have hall := (forms_run.mp ht).1
    exact level_of_not_mem (fun h => by simpa using hall _ h) fun h => by simpa using hall _ h
  have hinner : ∀ t, inCaption.Words t → Level t := by
    intro t ht
    obtain ⟨_, y, rfl, ht, hy⟩ := (words_append rfl rfl).mp ht
    obtain ⟨_, _, rfl, ht, hclose⟩ := (words_append rfl rfl).mp ht
    obtain ⟨_, x, rfl, hopen, hx⟩ := (words_append rfl rfl).mp ht
    obtain rfl := words_ofText.mp hopen
    obtain rfl := words_ofText.mp hclose
    rw [List.append_assoc "[[".toList]
    exact (hplain hx).double.append (hplain hy)
  obtain ⟨_, z, rfl, hk, hz⟩ := (words_append rfl rfl).mp hk
  obtain ⟨_, y, rfl, hpipe, hy⟩ := (words_append rfl rfl).mp hk
  obtain rfl := words_ofText.mp hpipe
  obtain ⟨gs, hz⟩ := hz
  obtain ⟨ts, hts, -, rfl⟩ := hz.rounds rfl
  have hsign : Level "|".toList := level_of_not_mem (by decide) (by decide)
  exact (hsign.append (hplain hy)).append (level_flatten fun t ht => hinner t (hts t ht))

/-- What a link has of square brackets is in pairs, inside those around it. -/
theorem deep_link (hfree : Bracketless v name) (hw : (link v name).Words w) : Deep w := by
  obtain ⟨f, k, ⟨h₁, hn, h₂, h₃, hx, h₄⟩, hk, rfl⟩ := words_link.mp hw
  rename_i g₁ n g₂ g₃ x g₄
  have hgap : ∀ {g}, Gap g → ∀ d ∈ "[]".toList, d ∉ g := by
    intro g hg d hd hmem
    have hall : ∀ d ∈ "[]".toList, Category.inGap d = false := by decide
    exact absurd (hg d hmem) (by simp [hall d hd])
  have hsign : ∀ d ∈ "[]".toList, Chars.Caseless d ∧ d ≠ ' ' ∧ d ≠ '_' ∧ d ≠ ':' := by decide
  have hnone : ∀ d ∈ "[]".toList, d ∉ g₁ ++ (n ++ (g₂ ++ (':' :: (g₃ ++ (x ++ g₄))))) := by
    intro d hd
    obtain ⟨hcaseless, hspace, hscore, hcolon⟩ := hsign d hd
    have hnd : d ∉ n := fun hmem =>
      let ⟨ns, hns, hmem⟩ := hn.mem hcaseless hmem
      hfree.namespaces ns hns d hd hmem
    have hxd : d ∉ x := fun hmem => hfree.name d hd (hx.mem hcaseless hspace hscore hmem)
    simp [hgap h₁ d hd, hgap h₂ d hd, hgap h₃ d hd, hgap h₄ d hd, hnd, hxd, hcolon]
  have hfront : Level (g₁ ++ (n ++ (g₂ ++ (':' :: (g₃ ++ (x ++ g₄)))))) :=
    level_of_not_mem (hnone '[' (by simp)) (hnone ']' (by simp))
  have hcaption : Level k := by
    rcases hk with rfl | hk
    · exact level_of_not_mem List.not_mem_nil List.not_mem_nil
    · exact level_caption hk
  have hdeep := (hfront.append hcaption).deep
  simpa using hdeep

/-- If the links to the file stand in the open, a reader sees of them what is written, and after they
are commented out, nothing; what stands around them is seen as before. No link comes about where
what is around them joins, if it has its brackets in pairs and no link by itself. -/
theorem commentOut_hides (hcomment : ¬ commentClosing <:+: comment) (h : InOpen v name t) :
    uncommented t = ((linkTo v name).pieces t).flatMap (fun
        | .kept u => uncommented u
        | .hit m => m.text) ∧
      uncommented (commentOut v name comment t) = ((linkTo v name).outside t).flatMap uncommented ∧
      (Bracketless v name →
        (∀ u ∈ (linkTo v name).outside t, unbalancedBracket? (uncommented u) = none ∧
          (linkTo v name).isMatch (uncommented u) = false) →
        (linkTo v name).isMatch (uncommented (commentOut v name comment t)) = false) := by
  obtain ⟨hgaps, hlinks⟩ := h
  rw [commentOut_eq, linkTo_eq] at *
  obtain ⟨parts, tail, hout, hpieces⟩ := exists_outline (lexical_link v name) t
  rw [outside_of_pieces hpieces, List.dropLast_concat, List.forall_mem_map] at hgaps
  rw [matches_of_pieces hpieces, List.forall_mem_map] at hlinks
  have hword : ∀ part ∈ parts, (link v name).Words part.2.text := fun part hpart =>
    ⟨_, hout.reads part hpart⟩
  have hafter : uncommented ((link v name).compile.replaceAll (fun m => wrapped comment m.text) t) =
      ((link v name).compile.outside t).flatMap uncommented := by
    rw [replaceAll_of_pieces hpieces, outside_of_pieces hpieces,
      uncommented_parts (g := fun m => wrapped comment m.text) (s := fun _ => []) hgaps
        (fun part _ => ⟨'<', rfl, by simp⟩)
        fun part hpart => uncommented_wrapped hcomment (hlinks part hpart).2]
    simp [List.flatMap_map]
  refine ⟨?_, hafter, fun hfree hall => ?_⟩
  · rw [hpieces, piecesOf, List.flatMap_append, List.flatMap_assoc]
    nth_rewrite 1 [hout.text_eq]
    rw [uncommented_parts (g := Match.text) (s := Match.text) hgaps
      (fun part hpart => ⟨'[', head_link (hword part hpart), by simp⟩)
      fun part hpart => uncommented_link (hword part hpart) (hlinks part hpart).1]
    simp
  · rw [hafter, isMatch_eq_false_iff (lexical_link v name), List.flatMap_def]
    refine free_flatten (fun w hw => ⟨(lexical_link v name).ne_nil w hw, deep_link hfree hw⟩) ?_ ?_
    · rw [List.forall_mem_map]
      exact fun u hu => level_of_unbalancedBracket? (hall u hu).1
    · rw [List.forall_mem_map]
      exact fun u hu => (isMatch_eq_false_iff (lexical_link v name)).mp (hall u hu).2

-- -----------------------------------------------------------------------------------------
-- Once more
-- -----------------------------------------------------------------------------------------

theorem length_wrapped (comment w : Text) : w.length < (wrapped comment w).length := by
  simp only [wrapped, List.length_append, List.length_cons]
  omega

/-- Commenting out a file again changes nothing only if there was no link to it in the first place. -/
theorem commentOut_again_iff :
    commentOut v name comment (commentOut v name comment t) = commentOut v name comment t ↔
      (linkTo v name).isMatch t = false := by
  have hp := lexical_link v name
  rw [linkTo_eq, isMatch_eq_false_iff hp, commentOut_eq v name comment (commentOut v name comment t),
    replaceAll_eq_self_iff hp fun m => length_wrapped comment m.text]
  constructor
  · intro hfree
    obtain ⟨parts, tail, hout, hpieces⟩ := exists_outline hp t
    rw [commentOut_eq, replaceAll_of_pieces hpieces] at hfree
    cases hout with
    | nil h => exact h
    | @cons u m w r parts tail _ hm _ =>
      -- the first link is found again in its comment
      have hin : m.text <:+: wrapped comment m.text :=
        ⟨commentOpening ++ (note comment ++ [' ']), ' ' :: commentClosing, by simp [wrapped]⟩
      refine absurd ?_ (hfree m.text ⟨_, hm.text.symm ▸ hm.reads⟩)
      rw [List.flatMap_cons, List.append_assoc, List.append_assoc]
      exact hin.trans ⟨u, _, List.append_assoc ..⟩
  · intro hfree
    rwa [commentOut_eq, replaceAll_of_free hp hfree]

/-- Comments do not nest: the end of the outer one is visible. -/
theorem commentOut_nested : ∃ v, Vocabulary.ofProfile .englishWikipedia = .ok v ∧
    commentOut v "X.png".toList [] "[[File:X.png]]".toList = "<!-- [[File:X.png]] -->".toList ∧
      commentOut v "X.png".toList [] "<!-- [[File:X.png]] -->".toList =
        "<!-- <!-- [[File:X.png]] --> -->".toList ∧
      uncommented "<!-- <!-- [[File:X.png]] --> -->".toList = " -->".toList := by
  have hrun : (Vocabulary.ofProfile .englishWikipedia).toOption.map (fun v =>
      (commentOut v "X.png".toList [] "[[File:X.png]]".toList,
        commentOut v "X.png".toList [] "<!-- [[File:X.png]] -->".toList)) =
      some ("<!-- [[File:X.png]] -->".toList, "<!-- <!-- [[File:X.png]] --> -->".toList) := by
    decide +kernel
  obtain ⟨v, hv, hrun⟩ := Article.exists_ok_of_toOption_map hrun
  exact ⟨v, hv, (Prod.mk.inj hrun).1, (Prod.mk.inj hrun).2, by decide⟩

end Wikitext.Image
