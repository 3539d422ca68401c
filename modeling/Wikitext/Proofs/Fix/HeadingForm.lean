import Wikitext.Fix.Headings
import Wikitext.Proofs.Fix.Headings
import Wikitext.Proofs.Fix.Descent
import Wikitext.Proofs.Pattern.Words

/-!
# The form of headings

A heading comes closer to its form with every pass that changes it: its name gets shorter or becomes
a standard one, the white space around the name is settled, or a single mark is doubled (`care`,
`effort`). No line that stays as it is needs more effort when the text around it changes, so the
passes over all headings of a text come to rest.
-/

namespace Wikitext.Fix

open Pattern

-- -----------------------------------------------------------------------------------------
-- Names
-- -----------------------------------------------------------------------------------------

/-- A name without bold marks, a colon at its end and white space in front of that. -/
def cleanName (name : Text) : Text :=
  Text.trimEnd ((Text.dropSuffix? ":".toList (withoutBold name)).getD (withoutBold name))

theorem lessens_withoutBold (name : Text) : Lessens List.length name (withoutBold name) := by
  rcases withoutBold_cases name with h | ⟨inner, rfl, h⟩
  · rw [h]
    exact .refl name
  · right
    have htrim := (Text.trim_isInfix inner).length_le
    have hthree : boldMark.length = 3 := rfl
    simp only [h, List.length_append]
    omega

theorem dropColon_isPrefix (name : Text) :
    (Text.dropSuffix? ":".toList name).getD name <+: name := by
  cases h : Text.dropSuffix? ":".toList name with
  | none => exact List.prefix_rfl
  | some front => exact ⟨":".toList, (Text.dropSuffix?_eq_some.mp h).symm⟩

theorem lessens_of_begins (h : u <+: t) : Lessens List.length t u := by
  rcases Nat.lt_or_ge u.length t.length with hlt | hge
  · exact .inr hlt
  · exact .inl (h.eq_of_length_le hge)

theorem withoutBold_isInfix (name : Text) : withoutBold name <:+: name := by
  rcases withoutBold_cases name with h | ⟨inner, rfl, h⟩
  · rw [h]
  · rw [h]
    exact (Text.trim_isInfix inner).trans ⟨boldMark, boldMark, List.append_assoc _ _ _⟩

theorem cleanName_isPrefix (name : Text) : cleanName name <+: withoutBold name :=
  (Text.trimEnd_isPrefix _).trans (dropColon_isPrefix _)

theorem lessens_cleanName (name : Text) : Lessens List.length name (cleanName name) :=
  (lessens_withoutBold name).trans (lessens_of_begins (cleanName_isPrefix name))

theorem trimStart_of_trim (h : Text.trim t = t) : Text.trimStart t = t :=
  Text.trimStart_of_not_blank (Text.solid_of_trim h).1

theorem trim_withoutBold (h : Text.trim name = name) :
    Text.trim (withoutBold name) = withoutBold name := by
  rcases withoutBold_cases name with hsame | ⟨inner, -, hinner⟩
  · rw [hsame, h]
  · rw [hinner, Text.trim_trim]

theorem trim_cleanName (h : Text.trim name = name) : Text.trim (cleanName name) = cleanName name := by
  have hstart : Text.trimStart (cleanName name) = cleanName name :=
    Text.trimStart_of_prefix (cleanName_isPrefix name) (trimStart_of_trim (trim_withoutBold h))
  rw [Text.trim, hstart]
  exact Text.trimEnd_trimEnd _

/-- A name that ends in a mark does not get rid of it. -/
theorem cleanName_of_mark (h : name.getLast? = some '=') : cleanName name = name := by
  have hnot : ∀ {p : Text} {c : Char}, p.getLast? = some c → c ≠ '=' → ¬ ∃ front, name = front ++ p := by
    rintro p c hp hc ⟨front, rfl⟩
    rw [List.getLast?_append, hp, Option.some_or] at h
    exact hc (Option.some.inj h)
  have hbold : withoutBold name = name := by
    have hends : Text.endsWith name boldMark = false := by
      rw [← Bool.not_eq_true, endsWith_iff]
      exact hnot (c := '\'') rfl (by decide)
    rw [withoutBold, hends, Bool.and_false, if_neg Bool.false_ne_true]
  have hcolon : Text.dropSuffix? ":".toList name = none := by
    rw [Option.eq_none_iff_forall_ne_some]
    intro front hfront
    exact hnot (c := ':') rfl (by decide) ⟨front, Text.dropSuffix?_eq_some.mp hfront⟩
  rw [cleanName, hbold, hcolon, Option.getD_none]
  refine Text.trimEnd_of_not_blank fun c hc => ?_
  obtain rfl : '=' = c := Option.some.inj (h.symm.trans hc)
  decide

def isProper (name : Text) : Bool := standardNames.any fun entry => entry.2.toList == name

theorem isProper_iff : isProper name = true ↔ ∃ entry ∈ standardNames, entry.2.toList = name := by
  simp [isProper]

theorem standardName_of_proper (h : isProper name = true) : standardName name = name := by
  have hall : ∀ entry ∈ standardNames, standardName entry.2.toList = entry.2.toList := by decide
  obtain ⟨entry, hentry, rfl⟩ := isProper_iff.mp h
  exact hall entry hentry

theorem cleanName_of_proper (h : isProper name = true) : cleanName name = name := by
  have hall : ∀ entry ∈ standardNames, cleanName entry.2.toList = entry.2.toList := by decide
  obtain ⟨entry, hentry, rfl⟩ := isProper_iff.mp h
  exact hall entry hentry

/-- A standard name is a trimmed line, has no mark at its end, and is at most one character longer
than what it replaces. -/
theorem standardName_cases (name : Text) : standardName name = name ∨
    isProper (standardName name) = true ∧ (standardName name).length ≤ name.length + 1 ∧
      Text.trim (standardName name) = standardName name ∧
      (standardName name).getLast? ≠ some '=' ∧ '\n' ∉ standardName name := by
  have hall : ∀ entry ∈ standardNames, isProper entry.2.toList = true ∧
      entry.2.toList.length ≤ entry.1.toList.length + 1 ∧
      Text.trim entry.2.toList = entry.2.toList ∧ entry.2.toList.getLast? ≠ some '=' ∧
      '\n' ∉ entry.2.toList := by decide
  unfold standardName
  split
  · rename_i spelling proper hfind
    obtain ⟨hproper, hlength, hrest⟩ := hall _ (List.mem_of_find?_eq_some hfind)
    have heq : name.map Char.toLower = spelling.toList.map Char.toLower := by
      simpa [Text.eqAsciiCase] using List.find?_some hfind
    have hsame := congrArg List.length heq
    rw [List.length_map, List.length_map] at hsame
    exact .inr ⟨hproper, hsame ▸ hlength, hrest⟩
  · exact .inl rfl

-- -----------------------------------------------------------------------------------------
-- What stands between the marks
-- -----------------------------------------------------------------------------------------

/-- The white space that is put around the name. -/
def innerSpace (content : Text) : Text :=
  if content.head?.any (" \t".toList.contains ·) then " ".toList else []

def laidOut (content name : Text) : Text := innerSpace content ++ name ++ innerSpace content

/-- What stands between the marks of the new heading. -/
def newInner (content : Text) : Text := laidOut content (standardName (cleanName (Text.trim content)))

/-- How far the name and the white space around it are from their form. -/
def care (content : Text) : Nat :=
  (Text.trim content).length + (if isProper (Text.trim content) then 0 else 2) +
    (if content = laidOut content (Text.trim content) then 0 else 1)

theorem blank_innerSpace (content : Text) : Blank (innerSpace content) := by
  unfold innerSpace
  split
  · intro c hc
    obtain rfl := List.mem_singleton.mp hc
    decide
  · exact blank_nil

theorem trim_laidOut (h : Text.trim name = name) : Text.trim (laidOut content name) = name := by
  have hblank := blank_innerSpace content
  rw [laidOut, List.append_assoc, Text.trim_between hblank hblank, h]

/-- White space stays where it was put. -/
theorem innerSpace_laidOut (h : Text.trim name = name) :
    innerSpace (laidOut content name) = innerSpace content := by
  have hspaces : ∀ c ∈ " \t".toList, Chars.isBlank c = true := by decide
  by_cases hhead : content.head?.any (" \t".toList.contains ·) = true
  · have hspace : innerSpace content = " ".toList := if_pos hhead
    rw [laidOut, hspace]
    rfl
  · have hspace : innerSpace content = [] := if_neg hhead
    rw [laidOut, hspace, List.nil_append, List.append_nil]
    refine if_neg fun hany => ?_
    obtain ⟨c, hc, hin⟩ := Option.any_eq_true _ _ |>.mp hany
    have hsolid := (Text.solid_of_trim h).1 c hc
    rw [hspaces c (List.contains_iff_mem.mp hin)] at hsolid
    cases hsolid

/-- The new name, unless it is the old one, makes up for a character more by being proper. -/
theorem care_name_lt (hchange : standardName (cleanName name) ≠ name) :
    (standardName (cleanName name)).length + (if isProper (standardName (cleanName name)) then 0 else 2) <
      name.length + (if isProper name then 0 else 2) := by
  have hname : isProper name = false := by
    rw [← Bool.not_eq_true]
    intro hproper
    rw [cleanName_of_proper hproper, standardName_of_proper hproper] at hchange
    exact hchange rfl
  have hclean := lessens_cleanName name
  rcases standardName_cases (cleanName name) with hsame | ⟨hproper, hlength, -⟩
  · rw [hsame] at hchange ⊢
    rcases hclean with heq | hlt
    · exact absurd heq hchange
    · simp only [hname, Bool.false_eq_true, if_false]
      split <;> omega
  · have hle := hclean.le
    simp only [hproper, hname]
    simp only [if_true, Bool.false_eq_true, if_false]
    omega

theorem trim_newName (content : Text) :
    Text.trim (standardName (cleanName (Text.trim content))) =
      standardName (cleanName (Text.trim content)) := by
  rcases standardName_cases (cleanName (Text.trim content)) with hsame | ⟨-, -, htrim, -⟩
  · rw [hsame]
    exact trim_cleanName (Text.trim_trim content)
  · exact htrim

theorem lessens_newInner (content : Text) : Lessens care content (newInner content) := by
  have htrim := trim_newName content
  have hcare : care (newInner content) = (standardName (cleanName (Text.trim content))).length +
      (if isProper (standardName (cleanName (Text.trim content))) then 0 else 2) := by
    have hlaid : newInner content = laidOut (newInner content) (Text.trim (newInner content)) := by
      rw [newInner, trim_laidOut htrim]
      conv_rhs => rw [laidOut, innerSpace_laidOut htrim]
      rfl
    rw [care, if_pos hlaid, newInner, trim_laidOut htrim, Nat.add_zero]
  by_cases hname : standardName (cleanName (Text.trim content)) = Text.trim content
  · by_cases hlaid : content = laidOut content (Text.trim content)
    · left
      rw [newInner, hname]
      exact hlaid.symm
    · right
      rw [hcare, hname, care, if_neg hlaid]
      exact Nat.lt_succ_self _
  · right
    rw [hcare]
    exact Nat.lt_of_lt_of_le (care_name_lt hname) (Nat.le_add_right _ _)

-- -----------------------------------------------------------------------------------------
-- Lines
-- -----------------------------------------------------------------------------------------

/-- The marks at the start of a line. -/
def frontMarks (line : Text) : Nat := (line.takeWhile (· == '=')).length

/-- What stands between the marks of a line. -/
def middle (line : Text) : Text := (line.dropWhile (· == '=')).rdropWhile (· == '=')

/-- How far a line without white space around it is from its form: a line with equally many marks
at both ends is a heading, any other one is not. -/
def formEffort (line : Text) : Nat :=
  (if line = [] then 0 else 1) +
    if frontMarks line = frontMarks line.reverse ∧ middle line ≠ [] then
      (if frontMarks line = 1 then 1 else 0) + care (middle line)
    else 0

/-- White space behind a heading is taken away too. -/
def effort (line : Text) : Nat :=
  formEffort (Text.trim line) + if line.getLast?.any Chars.isBlank then 1 else 0

def equals (n : Nat) : Text := List.replicate n '='

theorem all_equals (n : Nat) : ∀ c ∈ equals n, (c == '=') = true := fun c hc => by
  simp [List.eq_of_mem_replicate hc]

theorem equals_inLine (n : Nat) : '\n' ∉ equals n := fun hm => by simpa using all_equals n _ hm

theorem stops_of_head {t : Text} (h : t.head? ≠ some '=') : ∀ c ∈ t.head?, (c == '=') = false := fun c hc => by
  rw [beq_eq_false_iff_ne]
  rintro rfl
  exact h hc

theorem frontMarks_equals {t : Text} (h : t.head? ≠ some '=') : frontMarks (equals n ++ t) = n := by
  rw [frontMarks, Text.takeWhile_append_stop (all_equals n) (stops_of_head h), equals,
    List.length_replicate]

/-- The marks at the start of what stands between the marks count with those. -/
theorem frontMarks_append (n : Nat) (t : Text) : frontMarks (equals n ++ t) = n + frontMarks t := by
  rw [frontMarks, List.takeWhile_append_of_pos (all_equals n), List.length_append, equals,
    List.length_replicate, frontMarks]

theorem head?_append_equals (hne : content ≠ []) (h : content.head? ≠ some '=') (n : Nat) :
    (content ++ equals n).head? ≠ some '=' := by
  obtain ⟨c, content, rfl⟩ := List.exists_cons_of_ne_nil hne
  exact h

section
variable {content : Text} (hne : content ≠ []) (hlast : content.getLast? ≠ some '=') (n : Nat)
include hne hlast

theorem frontMarks_reverse : frontMarks (equals n ++ (content ++ equals n)).reverse = n := by
  have hrev : (equals n ++ (content ++ equals n)).reverse = equals n ++ (content.reverse ++ equals n) := by
    simp [equals]
  rw [hrev, frontMarks_equals]
  exact head?_append_equals (by simpa using hne) (by rwa [List.head?_reverse]) n

theorem middle_heading (hhead : content.head? ≠ some '=') :
    middle (equals n ++ (content ++ equals n)) = content := by
  have hrev : (content ++ equals n).reverse = equals n ++ content.reverse := by simp [equals]
  have hstop : content.reverse.head? ≠ some '=' := by rwa [List.head?_reverse]
  rw [middle, Text.dropWhile_append_stop (all_equals n)
    (stops_of_head (head?_append_equals hne hhead n)), List.rdropWhile, hrev,
    Text.dropWhile_append_stop (all_equals n) (stops_of_head hstop), List.reverse_reverse]

theorem formEffort_heading (hhead : content.head? ≠ some '=') :
    formEffort (equals n ++ (content ++ equals n)) = 1 + ((if n = 1 then 1 else 0) + care content) := by
  have hfront : frontMarks (equals n ++ (content ++ equals n)) = n :=
    frontMarks_equals (head?_append_equals hne hhead n)
  have hnil : equals n ++ (content ++ equals n) ≠ [] := by simp [hne]
  rw [formEffort, if_neg hnil, hfront, frontMarks_reverse hne hlast, middle_heading hne hlast n hhead,
    if_pos ⟨rfl, hne⟩]

end

/-- A line with at least two marks around it may be no heading, but needs no more effort then. -/
theorem formEffort_le (hlast : content.getLast? ≠ some '=') (hn : 2 ≤ n) :
    formEffort (equals n ++ (content ++ equals n)) ≤ 1 + care content := by
  have hline : (if equals n ++ (content ++ equals n) = [] then 0 else 1) ≤ 1 := by split <;> omega
  by_cases hform : frontMarks (equals n ++ (content ++ equals n)) =
      frontMarks (equals n ++ (content ++ equals n)).reverse ∧ middle (equals n ++ (content ++ equals n)) ≠ []
  · have hne : content ≠ [] := by
      rintro rfl
      have hall : ∀ c ∈ equals n ++ ([] ++ equals n), (c == '=') = true := fun c hc =>
        (List.mem_append.mp hc).elim (all_equals n c) (all_equals n c)
      refine hform.2 ?_
      rw [middle, List.dropWhile_eq_nil_iff.mpr hall]
      rfl
    have hhead : content.head? ≠ some '=' := by
      intro hmark
      obtain ⟨c, rest, rfl⟩ := List.exists_cons_of_ne_nil hne
      obtain rfl : c = '=' := Option.some.inj hmark
      have hmarks := hform.1
      rw [frontMarks_reverse hne hlast, frontMarks_append, List.cons_append, frontMarks,
        List.takeWhile_cons_of_pos (by decide), List.length_cons] at hmarks
      omega
    rw [formEffort_heading hne hlast n hhead, if_neg (by omega), Nat.zero_add]
  · rw [formEffort, if_neg hform]
    omega

-- -----------------------------------------------------------------------------------------
-- White space around a line
-- -----------------------------------------------------------------------------------------

theorem effort_le_cons (hc : Chars.isBlank c = true) (line : Text) :
    effort line ≤ effort (c :: line) := by
  have hblank : Blank [c] := blank_singleton.mpr hc
  have htrim : Text.trim (c :: line) = Text.trim line := by
    have hbetween := Text.trim_between hblank blank_nil line
    rwa [List.append_nil] at hbetween
  rw [effort, effort, htrim]
  cases line with
  | nil => exact Nat.le_add_right _ _
  | cons d line => rw [List.getLast?_cons_cons]

theorem effort_le_append (hc : Chars.isBlank c = true) (line : Text) :
    effort line ≤ effort (line ++ [c]) := by
  have hblank : Blank [c] := blank_singleton.mpr hc
  have htrim : Text.trim (line ++ [c]) = Text.trim line := Text.trim_between blank_nil hblank line
  have hlast : (line ++ [c]).getLast?.any Chars.isBlank = true := by simpa using hc
  rw [effort, effort, htrim, if_pos hlast]
  split <;> omega

theorem effort_pos (h : Text.trim line ≠ []) : 0 < effort line := by
  rw [effort, formEffort, if_neg h]
  omega

theorem effort_of_trim (h : Text.trim line = line) : effort line = formEffort line := by
  have hlast : line.getLast?.any Chars.isBlank = false := by
    rw [Option.any_eq_false]
    exact fun c hc => by simp [(Text.solid_of_trim h).2 c hc]
  rw [effort, h, if_neg (by simp [hlast]), Nat.add_zero]

-- -----------------------------------------------------------------------------------------
-- Matches
-- -----------------------------------------------------------------------------------------

/-- A match is a line with a name between marks and white space at its end. -/
structure HeadingParts (m : Match) (b : Option Char) (w r : Text) (front back : Nat) (space : Text) :
    Prop extends TakesLine b w r where
  frontMarks : m.group 1 = equals front
  backMarks : m.group 3 = equals back
  front_pos : 0 < front
  back_pos : 0 < back
  name_ne_nil : m.group 2 ≠ []
  name_head : (m.group 2).head? ≠ some '='
  blank_space : Blank space
  text_eq : w = equals front ++ (m.group 2 ++ (equals back ++ space))

/-- What stands between the marks in the source. -/
def headingName : Pattern := noneOf "=\n" ++ manyLazy (.char inLine)

theorem exists_equals (h : (many1 (lit "=")).Reads b w r gs) : ∃ n, 0 < n ∧ w = equals n := by
  obtain ⟨hne, hall, -⟩ := forms_run1.mp (h.anywhere rfl none [])
  exact ⟨w.length, List.length_pos_iff.mpr hne, List.eq_replicate_iff.mpr
    ⟨rfl, fun c hc => eq_of_beq (hall c hc)⟩⟩

theorem reads_lineStart (h : lineStart.Reads b w r gs) : w = [] ∧ LineBegins b := by
  cases h with
  | anchor ha hb _ =>
    refine ⟨rfl, fun c hc => ?_⟩
    simpa [hb, Option.mem_def.mp hc, Anchor.holds] using ha

theorem reads_lineEnd (h : lineEnd.Reads b w r gs) : w = [] ∧ LineEnds r := by
  cases h with
  | anchor ha _ hr =>
    refine ⟨rfl, fun c hc => ?_⟩
    simpa [hr, Option.mem_def.mp hc, Anchor.holds] using ha

theorem reads_headingEnd (h : (Pattern.seq gap lineEnd).Reads b w r gs) :
    (∀ c ∈ w, " \t".toList.contains c = true) ∧ LineEnds r := by
  cases h with
  | seq hgap hend =>
    obtain ⟨rfl, hends⟩ := reads_lineEnd hend
    rw [List.append_nil]
    exact ⟨(Exact.reads_run hgap).1, hends⟩

theorem reads_headingName (h : headingName.Reads b w r gs) :
    w ≠ [] ∧ w.head? ≠ some '=' ∧ '\n' ∉ w := by
  obtain ⟨_, v, _, _, rfl, -, hfirst, hrest⟩ := (forms_append rfl rfl).mp (h.anywhere rfl none [])
  obtain ⟨c, hc, rfl, -⟩ := forms_char.mp hfirst
  obtain ⟨hrest, -⟩ := forms_run.mp hrest
  have hc : c ≠ '=' ∧ c ≠ '\n' := by simpa using hc
  refine ⟨by simp, by simpa using hc.1, ?_⟩
  rw [List.singleton_append, List.mem_cons, not_or]
  exact ⟨Ne.symm hc.2, fun hm => by simpa [inLine, notLineFeed] using hrest _ hm⟩

theorem heading_parts {p : Pattern} (hm : Takes p m b w r)
    (hs : p.shapes = some [[.out lineStart, .group 1 (many1 (lit "=")), .group 2 headingName,
      .group 3 (many1 (lit "=")), .out (.seq gap lineEnd)]]) :
    ∃ front back space, HeadingParts m b w r front back space := by
  obtain ⟨s, hmem, gs, hf, hhas⟩ := fits_of_takes hm hs
  obtain rfl := List.mem_singleton.mp hmem
  obtain ⟨x, _, rfl, hx, g₁, _, _, rfl, rfl, h₁, g₂, _, _, rfl, rfl, h₂, g₃, _, _, rfl, rfl, h₃,
    y, _, rfl, hy, rfl, rfl⟩ := hf
  have hhas := hhas (by simp [Shape.indices])
  obtain ⟨front, hfront, rfl⟩ := exists_equals h₁
  obtain ⟨back, hback, rfl⟩ := exists_equals h₃
  have hg₁ : m.group 1 = equals front := hhas.group_eq (by simp)
  have hg₂ : m.group 2 = g₂ := hhas.group_eq (by simp)
  have hg₃ : m.group 3 = equals back := hhas.group_eq (by simp)
  obtain ⟨rfl, hbegins⟩ := reads_lineStart hx
  obtain ⟨hne, hhead, hline⟩ := reads_headingName h₂
  obtain ⟨hgap, hends⟩ := reads_headingEnd hy
  have hspace : '\n' ∉ y := fun hn => absurd (hgap _ hn) (by decide)
  have hblank : ∀ c ∈ " \t".toList, Chars.isBlank c = true := by decide
  refine ⟨front, back, y, ⟨hbegins, hends, by simp [hne], ?_⟩, hg₁, hg₃, hfront, hback, hg₂ ▸ hne,
    hg₂ ▸ hhead, fun c hc => hblank c (List.contains_iff_mem.mp (hgap c hc)), by simp [hg₂]⟩
  simp only [List.mem_append, List.nil_append, List.not_mem_nil, or_false, not_or]
  exact ⟨equals_inLine _, hline, equals_inLine _, hspace⟩

/-- A heading is left alone, or gets its new form. -/
theorem normalHeading_cases (m : Match) : normalHeading m = m.text ∨
    (m.group 1).length = (m.group 3).length ∧
      (cleanName (Text.trim (m.group 2))).getLast? ≠ some '=' ∧
      normalHeading m = equals (max (m.group 1).length 2) ++
        (newInner (m.group 2) ++ equals (max (m.group 1).length 2)) := by
  unfold normalHeading
  dsimp only
  split
  · exact .inl rfl
  · rename_i hlength
    split
    · exact .inl rfl
    · rename_i hmark
      refine .inr ⟨by simpa using hlength, by simpa [cleanName] using hmark, ?_⟩
      simp only [newInner, laidOut, cleanName, equals, innerSpace, List.append_assoc]

theorem not_mark_of_cleanName (h : (cleanName (Text.trim content)).getLast? ≠ some '=') :
    content.getLast? ≠ some '=' := by
  intro hmark
  obtain ⟨front, rfl⟩ := List.getLast?_eq_some_iff.mp hmark
  have hsolid := Text.solid_cons (x := '=') (by decide) []
  obtain ⟨front', hstart⟩ := Text.exists_trimStart_append hsolid front
  have htrim : Text.trim (front ++ ['=']) = front' ++ ['='] := by
    rw [Text.trim, hstart]
    exact Text.trimEnd_of_not_blank fun c hc => hsolid c (by simpa using hc)
  have hlast : (Text.trim (front ++ ['='])).getLast? = some '=' := by simp [htrim]
  rw [cleanName_of_mark hlast] at h
  exact h hlast

theorem newInner_not_mark (h : (cleanName (Text.trim content)).getLast? ≠ some '=') :
    (newInner content).getLast? ≠ some '=' := by
  have hname : (standardName (cleanName (Text.trim content))).getLast? ≠ some '=' := by
    rcases standardName_cases (cleanName (Text.trim content)) with hsame | ⟨-, -, -, hlast, -⟩
    · rwa [hsame]
    · exact hlast
  rw [newInner, laidOut, innerSpace]
  split
  · rw [List.getLast?_append]
    exact fun hmark => absurd (Option.some.inj hmark) (by decide : ' ' ≠ '=')
  · simpa using hname

theorem newInner_inLine (h : '\n' ∉ content) : '\n' ∉ newInner content := by
  have hname : '\n' ∉ standardName (cleanName (Text.trim content)) := by
    rcases standardName_cases (cleanName (Text.trim content)) with hsame | ⟨-, -, -, -, hline⟩
    · rw [hsame]
      exact fun hm => h ((Text.trim_isInfix content).subset
        ((withoutBold_isInfix _).subset ((cleanName_isPrefix _).subset hm)))
    · exact hline
  rw [newInner, laidOut, innerSpace]
  split <;> simpa using hname

theorem trim_heading (hn : 0 < n) (content : Text) :
    Text.trim (equals n ++ (content ++ equals n)) = equals n ++ (content ++ equals n) := by
  obtain ⟨n, rfl⟩ := Nat.exists_eq_succ_of_ne_zero (Nat.pos_iff_ne_zero.mp hn)
  have hback : equals (n + 1) = equals n ++ ['='] := List.replicate_succ'
  refine Text.trim_of_solid (fun c hc => ?_) (fun c hc => ?_)
  · obtain rfl : '=' = c := Option.some.inj hc
    decide
  · have hlast : (equals (n + 1) ++ (content ++ equals (n + 1))).getLast? = some '=' := by
      conv_lhs => arg 1; arg 2; rw [hback]
      simp only [List.getLast?_append, List.getLast?_singleton, Option.some_or]
    obtain rfl : '=' = c := Option.some.inj (hlast.symm.trans hc)
    decide

/-- A heading with white space behind it. -/
theorem effort_heading_space (hn : 0 < n) (hspace : Blank space) (content : Text) :
    effort (equals n ++ (content ++ (equals n ++ space))) =
      formEffort (equals n ++ (content ++ equals n)) + if space = [] then 0 else 1 := by
  have hline : equals n ++ (content ++ (equals n ++ space)) =
      [] ++ (equals n ++ (content ++ equals n) ++ space) := by simp
  have htrim : Text.trim (equals n ++ (content ++ (equals n ++ space))) =
      equals n ++ (content ++ equals n) := by
    rw [hline, Text.trim_between blank_nil hspace, trim_heading hn]
  by_cases hnil : space = []
  · subst hnil
    rw [List.append_nil, if_pos rfl, Nat.add_zero]
    exact effort_of_trim (trim_heading hn content)
  · obtain ⟨c, hc⟩ := Option.isSome_iff_exists.mp (List.getLast?_isSome.mpr hnil)
    have hlast : (equals n ++ (content ++ (equals n ++ space))).getLast? = some c := by
      simp [List.getLast?_append, hc]
    have hblank : (some c).any Chars.isBlank = true := hspace c (List.mem_of_getLast? hc)
    rw [effort, htrim, hlast, if_neg hnil, if_pos hblank]

/-- The new form of a heading needs less effort, or is the heading itself. -/
theorem lessens_normalHeading (h : HeadingParts m b w r front back space) (hw : m.text = w) :
    '\n' ∉ normalHeading m ∧ Lessens effort w (normalHeading m) := by
  rcases normalHeading_cases m with hsame | ⟨hlength, hmark, hnew⟩
  · rw [hsame, hw]
    exact ⟨h.inLine, .refl w⟩
  · rw [h.frontMarks, h.backMarks] at hlength
    obtain rfl : front = back := by simpa [equals] using hlength
    have hcount : (equals front).length = front := List.length_replicate
    have hpos := h.front_pos
    rw [hnew, h.frontMarks, hcount]
    generalize hK : max front 2 = marks
    have hinner : '\n' ∉ m.group 2 := fun hm => h.inLine (by simp [h.text_eq, hm])
    refine ⟨?_, ?_⟩
    · simp only [List.mem_append, not_or]
      exact ⟨equals_inLine _, newInner_inLine hinner, equals_inLine _⟩
    · have hold : effort w = 1 + ((if front = 1 then 1 else 0) + care (m.group 2)) +
          if space = [] then 0 else 1 := by
        rw [h.text_eq, effort_heading_space hpos h.blank_space,
          formEffort_heading h.name_ne_nil (not_mark_of_cleanName hmark) front h.name_head]
      have hform : effort (equals marks ++ (newInner (m.group 2) ++ equals marks)) ≤
          1 + care (newInner (m.group 2)) := by
        rw [effort_of_trim (trim_heading (by omega) _)]
        exact formEffort_le (newInner_not_mark hmark) (by omega)
      rcases lessens_newInner (m.group 2) with hinner | hless
      · by_cases hdone : front ≠ 1 ∧ space = []
        · left
          obtain rfl : marks = front := by omega
          rw [hinner, h.text_eq, hdone.2, List.append_nil]
        · right
          rw [hinner] at hform
          rw [hinner, hold]
          split <;> split <;> simp_all <;> omega
      · right
        rw [hold]
        omega

theorem usesUp_heading : UsesUp (lineSum effort) (heading.replaceAll normalHeading) := by
  refine usesUp_lines fun {m b w r} hm => ?_
  obtain ⟨front, back, space, hparts⟩ := heading_parts hm rfl
  exact ⟨hparts.toTakesLine, lessens_normalHeading hparts hm.text⟩

-- -----------------------------------------------------------------------------------------
-- The heading with the title of the article
-- -----------------------------------------------------------------------------------------

theorem effort_heading_pos (h : HeadingParts m b w r front back space) : 0 < effort w := by
  refine effort_pos fun hnil => ?_
  obtain ⟨n, hn⟩ := Nat.exists_eq_succ_of_ne_zero (Nat.pos_iff_ne_zero.mp h.front_pos)
  have hmark : '=' ∈ w := by
    rw [h.text_eq, hn]
    simp [equals, List.replicate_succ]
  have hstays := Text.mem_trim (by decide) hmark
  rw [hnil] at hstays
  cases hstays

/-- A line is taken away, and white space at the ends of the text. -/
theorem usesUp_dropTitleHeading (title : Text) : UsesUp (lineSum effort) (dropTitleHeading title) := by
  rw [usesUp_iff]
  intro t
  have htrim := lineSum_trim_le (fun c l hc => effort_le_cons hc l) fun c l hc => effort_le_append hc l
  rcases dropTitleHeading_cases title t with hsame | ⟨m, hfind, hfirst, -, hdrop⟩
  · rw [hsame]
    exact .refl t
  · obtain ⟨u, w, hsplit⟩ := Regex.splits_of_find? hfind
    obtain rfl := hsplit.nothing_before hfirst
    obtain ⟨front, back, space, hparts⟩ := heading_parts hsplit.takes rfl
    obtain ⟨n, hn⟩ := hparts.ends.lineSum_append effort
    have hbody : lineSum effort (Text.trimStart t) = effort w + n := by
      rw [hsplit.text, List.nil_append]
      exact hn w hparts.inLine
    have hafter : lineSum effort m.after = effort [] + n := hn [] List.not_mem_nil
    have hpos := effort_heading_pos hparts
    have hnil : effort [] = 0 := rfl
    have hle := lineSum_trimStart_le (fun c l hc => effort_le_cons hc l) t
    have hdone := htrim m.after
    rw [hdrop]
    right
    omega

theorem usesUp_headings (title : Text) :
    UsesUp (lineSum effort) fun t => dropTitleHeading title (heading.replaceAll normalHeading t) :=
  (usesUp_dropTitleHeading title).comp usesUp_heading

end Wikitext.Fix
