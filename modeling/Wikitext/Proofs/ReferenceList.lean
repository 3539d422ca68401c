import Wikitext.ReferenceList
import Wikitext.Proofs.Fix.Characters
import Wikitext.Proofs.Fix.Names
import Wikitext.Proofs.Fix.ReferenceList
import Wikitext.Proofs.Fix.Shrinking
import Wikitext.Proofs.Pattern.Expansion
import Wikitext.Proofs.Pattern.Words
import Wikitext.Proofs.Reference.Tag

/-!
# Reference lists

One pass over the tags leaves standard ones only, and the template in the place of a single one; neither
is changed by another pass. What another pass can change is a small list: it is looked for before the
tags in it are standard ones. So a pass settles a text exactly if no small list is left
(`fixTags_settles_iff`).

The template that is added where the list is missing has the first of the names that are looked for, so
it displays the list wherever it is put, and nothing is missing afterwards (`addMissing_displays`). A
profile without such names adds a template that it does not know, and adds it again each time.
-/

namespace Wikitext

open Pattern Fix

-- -----------------------------------------------------------------------------------------
-- Matches that cost a character
-- -----------------------------------------------------------------------------------------

theorem Regex.hits_pieces (r : Regex) (t : Text) : hits (r.pieces t) = [] ↔ r.isMatch t = false := by
  rw [isMatch, find?, findFrom?, pieces, piecesFrom]
  cases r.searchFrom (Cursor.ofText t).rest (Cursor.ofText t) { marks := r.marks } with
  | error => simp [hits]
  | ok result =>
    obtain ⟨m, memo⟩ := result
    dsimp only
    split
    · simp [between, hits]
    · simp [between, hits]

/-- By induction on the pieces: every match costs so many of the characters. -/
theorem Cuts.count_replaced {p : Pattern} {f : Match → Text} {c : Char} {n : Nat}
    (h : ∀ {m b w r}, Takes p m b w r → (f m).count c + n ≤ w.count c) (hc : Cuts p b t ps) :
    (ps.flatMap fun
      | .kept t => t
      | .hit m => f m).count c + n * (hits ps).length ≤ t.count c := by
  induction hc with
  | nil => simp [hits]
  | kept _ ih =>
    simp only [List.flatMap_cons, List.count_append, hits]
    omega
  | hit hm _ ih =>
    have hless := h hm
    simp only [List.flatMap_cons, List.count_append, hits, List.length_cons, Nat.mul_succ]
    omega

theorem Template.expand_plain (groups : GroupText) (ht : '$' ∉ t) : expand groups t = t := by
  induction t with
  | nil => rfl
  | cons c t ih =>
    rw [List.mem_cons, not_or] at ht
    rw [expand_char (Ne.symm ht.1), ih ht.2]

namespace ReferenceList

open Reference (caseless_close caseless_slash exists_front sameCaseless_append inside_of_sameCaseless
  not_mem_of_sameCaseless head_of_sameCaseless)
open Category (SameCaseless)

-- -----------------------------------------------------------------------------------------
-- The tags
-- -----------------------------------------------------------------------------------------

/-- What follows a tag: nothing if it closes itself, and otherwise, behind white space, a tag that
begins with a slash. -/
inductive Closed (x : Text) : Text → Prop
  | self : '/' ∈ x → Closed x []
  | tag : '/' ∉ x → Blank b → Tag y → y[1]? = some '/' → Closed x (b ++ y)

/-- A tag that does not begin with a slash, and what closes it. -/
inductive Paired : Text → Prop
  | intro : Tag x → x[1]? ≠ some '/' → Closed x u → Paired (x ++ u)

theorem Closed.unique (hu : Closed x u) (hu' : Closed x u') (h : u ++ r = u' ++ r') : u = u' := by
  cases hu with
  | self hx =>
    cases hu' with
    | self => rfl
    | tag hx' => exact absurd hx hx'
  | tag hx hb hy _ =>
    cases hu' with
    | self hx' => exact absurd hx' hx
    | tag _ hb' hy' _ =>
      rw [List.append_assoc, List.append_assoc] at h
      obtain ⟨rfl, hrest⟩ := hb.append_inj hb' (hy.solid _) (hy'.solid _) h
      obtain ⟨z, hz⟩ := hy.exists_cons
      rw [separate_tag.prefix_unique hy hy' (by simp [hz]) hrest]

/-- A tag that does not begin with a slash stands behind what closes another one. -/
theorem Closed.skip (hu : Closed x u) (hz : Tag z) (hsecond : z[1]? ≠ some '/')
    (h : u ++ r = a ++ (z ++ r')) : ∃ a', a = u ++ a' := by
  cases hu with
  | self => exact ⟨a, rfl⟩
  | tag _ hb hy hslash =>
    obtain ⟨z', rfl⟩ := hz.exists_cons
    rw [List.append_assoc] at h
    obtain ⟨k, rfl⟩ := exists_append_of_not_mem (hb.not_mem (by decide)) h
    rw [List.append_assoc, List.append_cancel_left_eq] at h
    rcases separate_tag hy hz h with ⟨-, rfl⟩ | ⟨k', rfl⟩
    · exact absurd hslash hsecond
    · exact ⟨k', (List.append_assoc _ _ _).symm⟩

/-- The first tag decides what closes it. -/
theorem separate_paired : Separate Paired := by
  rintro _ _ a r r' ⟨hx, -, hu⟩ ⟨hz, hsecond, hv⟩ h
  rename_i x u z v
  rw [List.append_assoc, List.append_assoc] at h
  rcases separate_tag hx hz h with ⟨rfl, rfl⟩ | ⟨k, rfl⟩
  · rw [List.nil_append, List.append_cancel_left_eq] at h
    exact .inl ⟨rfl, by rw [hu.unique hv h]⟩
  · rw [List.append_assoc, List.append_cancel_left_eq] at h
    obtain ⟨k', rfl⟩ := hu.skip hz hsecond h
    exact .inr ⟨k', (List.append_assoc _ _ _).symm⟩

def listTag : Pattern :=
  (lit "<references").caseless ++ blanks ++ lit ">" ++ blanks ++ (lit "</references").caseless ++
      blanks ++ lit ">" <|>
    (lit "<references").caseless ++ blanks ++ lit "/" ++ blanks ++ lit ">"

theorem referencesTag_eq : referencesTag = listTag.compile := by
  have halt : ∀ p q : Pattern, (p <|> q).caseless = (p.caseless <|> q.caseless) := fun _ _ => rfl
  rw [referencesTag, halt]
  simp only [caseless_append, caseless_blanks, caseless_slash, caseless_close]
  rfl

theorem lexical_listTag : listTag.Lexical := ⟨rfl, rfl, rfl⟩

/-- What stands between a name and the closing bracket, which is without angle brackets. -/
theorem tag_of_name (name : Text) (hf : SameCaseless ('<' :: name) f) (hname : Inside name) (hx : Inside x) :
    Tag (f ++ (x ++ ['>'])) := by
  obtain ⟨f', rfl, hf'⟩ := exists_front hf
  simpa using Tag.intro ((inside_of_sameCaseless hname hf').append hx)

theorem not_slash_of_name (hf : SameCaseless "<references".toList f) : '/' ∉ f :=
  not_mem_of_sameCaseless (by decide) (by decide) hf

theorem second_of_name (hf : SameCaseless "<references".toList f) (x : Text) :
    (f ++ x)[1]? ≠ some '/' := by
  intro h
  have hlength : f.length = 11 := hf.length_eq.symm
  rw [List.getElem?_append_left (by omega)] at h
  exact not_slash_of_name hf (List.mem_of_getElem? h)

theorem second_of_closing (hf : SameCaseless "</references".toList f) (x : Text) :
    (f ++ x)[1]? = some '/' := by
  obtain ⟨f', rfl, hf'⟩ := exists_front (t := "/references".toList) hf
  obtain ⟨y, z, hy, -, rfl⟩ := List.forall₂_cons_left_iff (l := "references".toList).mp hf'
  rw [anyCase_single (by decide)] at hy
  rw [eq_of_beq hy]
  rfl

theorem paired_of_words (h : listTag.Words w) : Paired w := by
  obtain ⟨gs, h⟩ := h
  rcases reads_alt_iff.mp h with h | h
  · obtain ⟨_, _, _, _, rfl, -, h, hend⟩ := (forms_append rfl rfl).mp h
    obtain ⟨_, b₃, _, _, rfl, -, h, hb₃⟩ := (forms_append rfl rfl).mp h
    obtain ⟨_, g, _, _, rfl, -, h, hg⟩ := (forms_append rfl rfl).mp h
    obtain ⟨_, b₂, _, _, rfl, -, h, hb₂⟩ := (forms_append rfl rfl).mp h
    obtain ⟨_, _, _, _, rfl, -, h, hmid⟩ := (forms_append rfl rfl).mp h
    obtain ⟨f, b₁, _, _, rfl, -, hf, hb₁⟩ := (forms_append rfl rfl).mp h
    obtain ⟨rfl, -⟩ := forms_ofText.mp hend
    obtain ⟨rfl, -⟩ := forms_ofText.mp hmid
    have hf := (forms_ofText_caseless.mp hf).1
    have hg := (forms_ofText_caseless.mp hg).1
    have hb₁ := (Reference.forms_blanks.mp hb₁).1
    have hb₃ := (Reference.forms_blanks.mp hb₃).1
    have hopen := tag_of_name "references".toList hf ⟨by decide, by decide⟩ hb₁.inside
    have hclose := tag_of_name "/references".toList hg ⟨by decide, by decide⟩ hb₃.inside
    have hslash : '/' ∉ f ++ (b₁ ++ ['>']) := by
      simp [not_slash_of_name hf, hb₁.not_mem (c := '/') (by decide)]
    have hboth := Paired.intro hopen (second_of_name hf _)
      (.tag hslash (Reference.forms_blanks.mp hb₂).1 hclose (second_of_closing hg _))
    simpa using hboth
  · obtain ⟨_, _, _, _, rfl, -, h, hend⟩ := (forms_append rfl rfl).mp h
    obtain ⟨_, b₂, _, _, rfl, -, h, hb₂⟩ := (forms_append rfl rfl).mp h
    obtain ⟨_, _, _, _, rfl, -, h, hslash⟩ := (forms_append rfl rfl).mp h
    obtain ⟨f, b₁, _, _, rfl, -, hf, hb₁⟩ := (forms_append rfl rfl).mp h
    obtain ⟨rfl, -⟩ := forms_ofText.mp hend
    obtain ⟨rfl, -⟩ := forms_ofText.mp hslash
    have hf := (forms_ofText_caseless.mp hf).1
    have hb₁ := (Reference.forms_blanks.mp hb₁).1
    have hb₂ := (Reference.forms_blanks.mp hb₂).1
    have hinside : Inside (b₁ ++ "/".toList ++ b₂) :=
      (hb₁.inside.append ⟨by decide, by decide⟩).append hb₂.inside
    have hopen := tag_of_name "references".toList hf ⟨by decide, by decide⟩ hinside
    have halone := Paired.intro hopen (second_of_name hf _) (.self (by simp))
    simpa using halone

theorem separate_listTag : Separate listTag.Words := fun hw hw' =>
  separate_paired (paired_of_words hw) (paired_of_words hw')

theorem brace_not_mem (h : listTag.Words w) : '\x7b' ∉ w := by
  obtain ⟨gs, h⟩ := h
  have havoids : listTag.avoids ['\x7b'] = true := by decide
  exact fun hm => h.avoids havoids _ hm List.mem_cons_self

theorem words_standardTag : listTag.Words standardTag := by
  have hfound : (listTag.compile.matches' standardTag).map (·.text) = [standardTag] := by
    decide +kernel
  obtain ⟨m, hm, htext⟩ := List.mem_map.mp (hfound ▸ List.mem_singleton_self standardTag)
  exact htext ▸ ⟨_, reads_of_mem_matches lexical_listTag hm⟩

-- -----------------------------------------------------------------------------------------
-- Standard tags
-- -----------------------------------------------------------------------------------------

/-- All tags of the text are standard ones. -/
def Standard (t : Text) : Prop := ∀ w, listTag.Words w → w <:+: t → w = standardTag

def standardised (t : Text) : Text := referencesTag.replaceAll (fun _ => standardTag) t

theorem standard_standardised (t : Text) : Standard (standardised t) := by
  intro w hw hi
  rw [standardised, referencesTag_eq] at hi
  obtain ⟨m, hm, rfl⟩ := (found_iff lexical_listTag separate_listTag _ w).mpr ⟨hw, hi⟩
  have hfound := (matches_replaceAll lexical_listTag separate_listTag (t := t)
    (f := fun _ => standardTag) fun _ _ => words_standardTag).1
  have hmem := hfound ▸ List.mem_map_of_mem (f := Match.text) hm
  obtain ⟨-, -, htext⟩ := List.mem_map.mp hmem
  exact htext.symm

theorem Standard.standardised_eq (h : Standard t) : standardised t = t := by
  rw [standardised, referencesTag_eq]
  exact replaceAll_eq_self lexical_listTag fun m hm =>
    (h _ ⟨_, reads_of_mem_matches lexical_listTag hm⟩ (infix_of_mem_matches hm)).symm

/-- The template in the place of a single standard tag. -/
def templated (v : Vocabulary) (useTemplate : Bool) (t : Text) : Text :=
  if useTemplate && Text.occurrences standardTag t == 1 then
    Text.replaceFirst standardTag (template v) t
  else t

def smallReplaced (v : Vocabulary) (t : Text) : Text :=
  smallReferences.replaceAll (fun m => Template.expand (Template.groupText [] m) (template v)) t

theorem fixTags_eq (v : Vocabulary) (useTemplate : Bool) (t : Text) :
    fixTags v useTemplate t = templated v useTemplate (standardised (smallReplaced v t)) := rfl

theorem templated_of_free {v : Vocabulary} (h : ¬ standardTag <:+: t) (useTemplate : Bool) :
    templated v useTemplate t = t := by
  have hnone : Text.occurrences standardTag t = 0 := by
    have hpos : 0 < Text.occurrences standardTag t ↔ standardTag <:+: t :=
      Text.occurrences_pos (by decide) t
    exact Nat.eq_zero_of_not_pos fun hlt => h (hpos.mp hlt)
  simp [templated, hnone]

/-- A single occurrence is replaced where it stands, and there is none around it. -/
theorem exists_single (hone : Text.occurrences standardTag t = 1) :
    ∃ x y, t = x ++ (standardTag ++ y) ∧ ¬ standardTag <:+: x ∧ ¬ standardTag <:+: y ∧
      ∀ new, Text.replaceFirst standardTag new t = x ++ (new ++ y) := by
  have hdivides : Text.Divides standardTag (Text.cut standardTag t) t := Text.divides_cut (by decide) t
  unfold Text.occurrences at hone
  unfold Text.replaceFirst
  generalize Text.cut standardTag t = parts at hdivides hone
  cases hdivides with
  | last => cases hone
  | @cons x _ _ hx h =>
    cases h with
    | last hy =>
      have hno : ¬ standardTag <:+: x := fun hi => hx (hi.trans (List.prefix_append _ _).isInfix)
      exact ⟨_, _, rfl, hno, hy, fun new => List.append_assoc _ _ _⟩
    | cons _ h =>
      cases h <;> cases hone

section
variable {v : Vocabulary} (hname : '<' ∉ v.profile.defaultReflist)
include hname

theorem exists_template :
    ∃ rest, template v = '\x7b' :: rest ∧ '<' ∉ rest := by
  refine ⟨'\x7b' :: (v.profile.defaultReflist ++ "\x7d\x7d".toList), ?_, ?_⟩
  · simp [template]
  · simp [hname]

theorem count_template : (template v).count '<' = 0 := by
  obtain ⟨rest, heq, hrest⟩ := exists_template hname
  rw [heq, List.count_cons_of_ne (by decide), List.count_eq_zero.mpr hrest]

theorem free_templated (h : Standard t) (hone : Text.occurrences standardTag t = 1) :
    Free listTag.Words (Text.replaceFirst standardTag (template v) t) := by
  obtain ⟨x, y, rfl, hx, hy, hreplaced⟩ := exists_single hone
  obtain ⟨rest, htemplate, hrest⟩ := exists_template hname
  intro w hw hi
  obtain ⟨z, hz⟩ : ∃ z, w = '<' :: z := by
    obtain ⟨hfirst, -, -⟩ := paired_of_words hw
    obtain ⟨z, rfl⟩ := hfirst.exists_cons
    exact ⟨_, rfl⟩
  rw [hreplaced, htemplate, List.cons_append] at hi
  rcases infix_cons_cases (brace_not_mem hw) hi with hi | hi
  · have hin : w <:+: x ++ (standardTag ++ y) := hi.trans (List.prefix_append _ _).isInfix
    exact hx (h w hw hin ▸ hi)
  · rw [hz] at hi
    have hlast := infix_of_append_left hrest hi
    rw [← hz] at hlast
    have hin : w <:+: x ++ (standardTag ++ y) := by
      rw [← List.append_assoc]
      exact hlast.trans (List.suffix_append _ _).isInfix
    exact hy (h w hw hin ▸ hlast)

theorem Standard.templated (h : Standard t) (useTemplate : Bool) :
    Standard (templated v useTemplate t) ∧
      ReferenceList.templated v useTemplate (ReferenceList.templated v useTemplate t) =
        ReferenceList.templated v useTemplate t := by
  by_cases hone : (useTemplate && Text.occurrences standardTag t == 1) = true
  · have hfree := free_templated hname h (by simpa using And.right (by simpa using hone))
    have heq : ReferenceList.templated v useTemplate t = Text.replaceFirst standardTag (template v) t := by
      rw [ReferenceList.templated, if_pos hone]
    rw [heq]
    exact ⟨fun w hw hi => absurd hi (hfree w hw),
      templated_of_free (hfree _ words_standardTag) useTemplate⟩
  · have heq : ReferenceList.templated v useTemplate t = t := by
      rw [ReferenceList.templated, if_neg hone]
    rw [heq, heq]
    exact ⟨h, rfl⟩

-- -----------------------------------------------------------------------------------------
-- Opening brackets
-- -----------------------------------------------------------------------------------------

theorem count_templated (useTemplate : Bool) (t : Text) :
    (ReferenceList.templated v useTemplate t).count '<' ≤ t.count '<' := by
  unfold ReferenceList.templated
  split
  · rename_i hone
    obtain ⟨x, y, rfl, -, -, hreplaced⟩ := exists_single (by simpa using And.right (by simpa using hone))
    rw [hreplaced]
    simp only [List.count_append, count_template hname]
    omega
  · exact Nat.le_refl _

omit hname in
theorem count_standardised (t : Text) : (standardised t).count '<' ≤ t.count '<' := by
  rw [standardised, referencesTag_eq]
  have hone : ∀ {m b w r}, Takes listTag m b w r → standardTag.count '<' + 0 ≤ w.count '<' := by
    intro m b w r hm
    obtain ⟨hfirst, -, -⟩ := paired_of_words ⟨_, hm.reads.anywhere lexical_listTag.anchorless _ _⟩
    obtain ⟨z, rfl⟩ := hfirst.exists_cons
    have hstandard : standardTag.count '<' = 1 := by decide
    rw [List.cons_append, List.count_cons_self, hstandard]
    omega
  have hcount := (Regex.cuts_pieces listTag t).count_replaced hone
  exact Nat.le_of_add_right_le hcount

end

theorem begins_single (hc : Chars.Caseless c) : Begins (single c).caseless [c] := by
  intro b w r gs h
  obtain ⟨x, hx, rfl, -⟩ := forms_char.mp (h.anywhere rfl none [])
  rw [anyCase_single hc] at hx
  rw [eq_of_beq hx]

theorem exists_smallList :
    ∃ p : Pattern, smallReferences = p.compile ∧ p.Lexical ∧ Begins p ['<'] := by
  refine ⟨_, rfl, ⟨rfl, rfl, rfl⟩, ?_⟩
  simp only [caseless_append]
  repeat refine Begins.append ?_ _
  exact begins_single (c := '<') (by decide)

theorem count_smallReplaced {v : Vocabulary} (hname : '<' ∉ v.profile.defaultReflist)
    (hdollar : '$' ∉ v.profile.defaultReflist) (h : smallReferences.isMatch t = true) :
    (smallReplaced v t).count '<' < t.count '<' := by
  obtain ⟨p, hp, -, hbegins⟩ := exists_smallList
  have hplain : ∀ groups, Template.expand groups (template v) = template v := fun groups =>
    Template.expand_plain groups (by simp [template, hdollar])
  have hone : ∀ {m b w r}, Takes p m b w r →
      (Template.expand (Template.groupText [] m) (template v)).count '<' + 1 ≤ w.count '<' := by
    intro m b w r hm
    obtain ⟨z, rfl⟩ := hbegins _ _ _ _ hm.reads
    rw [hplain, count_template hname, List.singleton_append, List.count_cons_self]
    omega
  rw [smallReplaced, hp]
  have hcount := (Regex.cuts_pieces p t).count_replaced hone
  have hhit : hits (p.compile.pieces t) ≠ [] := by
    rw [Ne, Regex.hits_pieces, ← hp, h]
    decide
  have hpos := List.length_pos_iff.mpr hhit
  change (p.compile.replaceAll _ t).count '<' + _ ≤ _ at hcount
  omega

theorem smallReplaced_of_not_isMatch (v : Vocabulary) (h : smallReferences.isMatch t = false) :
    smallReplaced v t = t := by
  obtain ⟨p, hp, hlexical, -⟩ := exists_smallList
  rw [hp] at h
  rw [smallReplaced, hp]
  refine replaceAll_eq_self hlexical fun m hm => ?_
  rw [matches_eq_hits, (Regex.hits_pieces _ _).mpr h] at hm
  cases hm

-- -----------------------------------------------------------------------------------------
-- A second pass
-- -----------------------------------------------------------------------------------------

/-- A second pass changes nothing exactly if the first one leaves no small list. -/
theorem fixTags_settles_iff {v : Vocabulary} (hname : '<' ∉ v.profile.defaultReflist)
    (hdollar : '$' ∉ v.profile.defaultReflist) (useTemplate : Bool) (t : Text) :
    fixTags v useTemplate (fixTags v useTemplate t) = fixTags v useTemplate t ↔
      smallReferences.isMatch (fixTags v useTemplate t) = false := by
  obtain ⟨hstandard, htemplated⟩ :=
    (standard_standardised (smallReplaced v t)).templated hname useTemplate
  rw [← fixTags_eq] at hstandard htemplated
  generalize fixTags v useTemplate t = t' at hstandard htemplated ⊢
  constructor
  · intro hfixed
    by_contra hmatch
    have hsmall := count_smallReplaced hname hdollar (by simpa using hmatch)
    have hstandardised := count_standardised (smallReplaced v t')
    have hcount := count_templated hname useTemplate (standardised (smallReplaced v t'))
    rw [← fixTags_eq, hfixed] at hcount
    omega
  · intro hnone
    rw [fixTags_eq, smallReplaced_of_not_isMatch v hnone, hstandard.standardised_eq, htemplated]

-- The first pass makes the tag a standard one, with which the list around it is a small one.
example : (Vocabulary.ofProfile .englishWikipedia).toOption.map (fun v =>
    let once :=
      fixTags v false "<div class=\"references-small\"><references></references></div>".toList
    (once, fixTags v false once)) =
      some ("<div class=\"references-small\"><references /></div>".toList,
        "\x7b\x7bReflist\x7d\x7d".toList) := by
  decide +kernel

end ReferenceList

-- -----------------------------------------------------------------------------------------
-- Names as patterns
-- -----------------------------------------------------------------------------------------

theorem steady_nameAmong {ps : List Pattern} (h : ∀ p ∈ ps, p.steady = true) :
    (nameAmong ps).steady = true := by
  cases ps with
  | nil => rfl
  | cons => exact steady_firstOf h

/-- A name is one of the ways to write it. -/
theorem reads_spaceOrUnderscore (name : Text) (b : Option Char) (r : Text) :
    (spaceOrUnderscore name).Reads b name r [] := by
  unfold spaceOrUnderscore
  induction name generalizing b with
  | nil => exact .empty
  | cons x name ih =>
    have hone : (if x == ' ' then oneOf " _" else single x).Reads b [x] (name ++ r) [] := by
      split
      · rename_i hx
        obtain rfl := eq_of_beq hx
        exact .char rfl
      · exact .char BEq.rfl
    exact hone.inOrder_cons (ih (some x))

theorem steady_spaceOrUnderscore (name : Text) : (spaceOrUnderscore name).steady = true := by
  refine steady_inOrder fun p hp => ?_
  obtain ⟨x, -, rfl⟩ := List.mem_map.mp hp
  split <;> rfl

namespace ReferenceList

-- -----------------------------------------------------------------------------------------
-- What displays the list
-- -----------------------------------------------------------------------------------------

/-- A tag for the list, or a template with one of the names. -/
def display (p : Profile) : Pattern :=
  lit "<references" ++ boundary <|>
    lit "\x7b\x7b" ++ blanks ++ opt (ofText p.templateNamespace ++ blanks ++ lit ":" ++ blanks) ++
      nameAmong (p.reflistTemplates.map spaceOrUnderscore) ++ blanks ++ oneOf "|\x7d"

theorem steady_display (p : Profile) : (display p).steady = true := by
  have hnames : (nameAmong (p.reflistTemplates.map spaceOrUnderscore)).steady = true := by
    refine steady_nameAmong fun q hq => ?_
    obtain ⟨name, -, rfl⟩ := List.mem_map.mp hq
    exact steady_spaceOrUnderscore name
  have hprefix : (opt (ofText p.templateNamespace ++ blanks ++ lit ":" ++ blanks)).steady = true := by
    simp only [opt, steady, steady_append, steady_ofText, Option.isSome_some, Bool.true_or,
      Bool.and_true]
    rfl
  change (_ && _) = true
  simp only [steady_append, hnames, hprefix]
  rfl

/-- The template of the profile, up to its first closing brace, is one that is looked for. -/
theorem reads_display {p : Profile} (hp : p.reflistTemplates ≠ []) (b : Option Char) (r : Text) :
    (display p).Reads b ("\x7b\x7b".toList ++ p.defaultReflist ++ "\x7d".toList) r [] := by
  obtain ⟨name, names, hnames⟩ := List.exists_cons_of_ne_nil hp
  have hdefault : p.defaultReflist = name := by simp [Profile.defaultReflist, hnames]
  have hblanks : ∀ b r, blanks.Reads b [] r [] := fun _ _ => .run (by simp)
  have hname : ∀ b r, (nameAmong (p.reflistTemplates.map spaceOrUnderscore)).Reads b name r [] := by
    intro b r
    rw [hnames]
    exact (reads_spaceOrUnderscore name b r).firstOf List.mem_cons_self
  have hopen := reads_ofText "\x7b\x7b".toList b (name ++ ("\x7d".toList ++ r))
  have hfront := ((hopen.append_nothing (hblanks _ _)).append_nothing (.stop : (opt
    (ofText p.templateNamespace ++ blanks ++ lit ":" ++ blanks)).Reads _ [] _ []))
  have hnamed := (Reads.seq hfront (hname _ ("\x7d".toList ++ r))).append_nothing (hblanks _ _)
  rw [hdefault]
  exact .right (.seq hnamed (.char rfl))

theorem isMatch_template (hv : Vocabulary.ofProfile p = .ok v) (hp : p.reflistTemplates ≠ [])
    (u r : Text) : v.referenceDisplay.isMatch (u ++ template v ++ r) = true := by
  have hnames := names_ofProfile hv
  have hsteady : (display p).caseless.steady = true :=
    (steady_caseless _).trans (steady_display p)
  rw [hnames.referenceDisplay]
  refine (Regex.isMatch_iff hsteady).mpr ?_
  refine ⟨u, _, '\x7d' :: r, [], ?_, (reads_display hp _ _).caseless⟩
  rw [template, hnames.profile]
  simp

-- -----------------------------------------------------------------------------------------
-- Adding the list
-- -----------------------------------------------------------------------------------------

/-- Where the list is missing, its template is put somewhere into the text. -/
theorem exists_addMissing (h : isMissing v t = true) :
    ∃ u r, addMissing v t = u ++ template v ++ r := by
  unfold addMissing
  rw [h]
  simp only [Bool.not_true, Bool.false_eq_true, if_false]
  cases hheading : referencesHeading.find? t with
  | some m => exact ⟨_, m.after, rfl⟩
  | none =>
    dsimp only
    generalize ((externalLinksHeading.find? t).map fun m => m.offset t.length).orElse
      (fun _ => Metadata.firstLine? v t) = place
    cases place with
    | some i => exact ⟨Text.trimEnd (t.take i) ++ "\n\n==References==\n".toList,
        "\n\n".toList ++ t.drop i, by simp⟩
    | none => exact ⟨Text.trimEnd t ++ "\n\n==References==\n".toList, [], by simp⟩

theorem addMissing_displays {p : Profile} (hv : Vocabulary.ofProfile p = .ok v)
    (hp : p.reflistTemplates ≠ []) (t : Text) :
    isMissing v (addMissing v t) = false ∧ addMissing v (addMissing v t) = addMissing v t := by
  have hdisplays : isMissing v (addMissing v t) = false := by
    cases h : isMissing v t with
    | false => simp [addMissing, h]
    | true =>
      obtain ⟨u, r, hadded⟩ := exists_addMissing h
      rw [hadded, isMissing, isMatch_template hv hp, Bool.not_true, Bool.and_false]
  refine ⟨hdisplays, ?_⟩
  rw [addMissing, hdisplays]
  rfl

-- Without names the template that stands in the text is not known, and a second one is added.
example : (Vocabulary.ofProfile { Profile.englishWikipedia with reflistTemplates := [] }).toOption.map
    (fun v => addMissing v (addMissing v "a<ref>x</ref>".toList)) =
      some ("a<ref>x</ref>\n\n==References==\n\x7b\x7bReflist\x7d\x7d" ++
        "\n\x7b\x7bReflist\x7d\x7d").toList := by
  decide +kernel

end ReferenceList

end Wikitext
