import Wikitext.Diff.Html
import Wikitext.Proofs.Diff.Rows
import Wikitext.Proofs.Diff.Words
import Wikitext.Proofs.Text.Basic

/-!
# Reading the table

`Html.cells?` reads one line of the table: it takes the tags away, refuses any
that do not belong there, and takes the escaping of the text back.
`TextDiff.html_shows_rows`: the table has one line for each row, and what is read from
it are the lines of the article that the row is about.
-/

namespace Wikitext

open Diff

namespace Html

-- -----------------------------------------------------------------------------------------
-- The reader
-- -----------------------------------------------------------------------------------------

/-- The text that is written in this way, unless a character of markup stands there unescaped. -/
def unescape? : Text → Option Text
  | [] => some []
  | '&' :: 'a' :: 'm' :: 'p' :: ';' :: t => (unescape? t).map ('&' :: ·)
  | '&' :: 'l' :: 't' :: ';' :: t => (unescape? t).map ('<' :: ·)
  | '&' :: 'g' :: 't' :: ';' :: t => (unescape? t).map ('>' :: ·)
  | c :: t => if c == '&' || c == '<' || c == '>' then none else (unescape? t).map (c :: ·)

/-- The tags of a text, each with what stands between it and the next one. -/
def tags? (html : Text) : Option (List (Text × Text)) :=
  match Text.splitOn '<' html with
  | [] :: pieces => pieces.mapM (Text.splitFirst? '>')
  | _ => none

def rowTag : Text := "tr".toList

def rowEnd : Text := "/tr".toList

def cellEnd : Text := "/td".toList

def markTag : Text := "span class='diffchange diffchange-inline'".toList

def markEnd : Text := "/span".toList

def contextTag : Text := "td class='diff-context'".toList

def deletedTag : Text := "td class='diff-deletedline'".toList

def addedTag : Text := "td class='diff-addedline'".toList

def markerTag : Text := "td class='diff-marker'".toList

def emptyTag : Text := "td colspan='2' class='diff-empty'".toList

def numberTag : Text := "td colspan='2' class='diff-lineno'".toList

/-- Cells with text of the article. -/
def articleCells : List Text := [contextTag, deletedTag, addedTag]

/-- Cells with signs and with numbers of lines. -/
def signCells : List Text := [markerTag, emptyTag, numberTag]

/-- Where in a row of the table a tag stands. -/
inductive Place
  | row
  | sign
  | cell
  | mark

/-- The text of the article up to the end of the cell, and the cells behind it. A mark stands in a
cell with text of the article, holds some of it and no tag, and is closed there. -/
def cellsFrom : Place → List (Text × Text) → Option (Text × List (Text × Text))
  | _, [] => none
  | .row, (tag, t) :: rest =>
    if articleCells.contains tag then
      (unescape? t).bind fun start =>
        (cellsFrom .cell rest).map fun (line, cells) => ([], (tag, start ++ line) :: cells)
    else if signCells.contains tag then
      (cellsFrom .sign rest).map fun (_, cells) => ([], (tag, t) :: cells)
    else if tag == rowEnd && t.isEmpty && rest.isEmpty then some ([], [])
    else none
  | .sign, (tag, t) :: rest =>
    if tag == cellEnd && t.isEmpty then cellsFrom .row rest else none
  | .cell, (tag, t) :: rest =>
    if tag == cellEnd && t.isEmpty then cellsFrom .row rest
    else if tag == markTag && !t.isEmpty then
      (unescape? t).bind fun marked =>
        (cellsFrom .mark rest).map fun (line, cells) => (marked ++ line, cells)
    else none
  | .mark, (tag, t) :: rest =>
    if tag == markEnd then
      (unescape? t).bind fun plain =>
        (cellsFrom .cell rest).map fun (line, cells) => (plain ++ line, cells)
    else none

/-- The cells of one line of the table and what they say. -/
def cells? (html : Text) : Option (List (Text × Text)) :=
  match tags? html with
  | some ((tag, t) :: rest) =>
    if tag == rowTag && t.isEmpty then (cellsFrom .row rest).map (·.2) else none
  | _ => none

-- -----------------------------------------------------------------------------------------
-- Escaped text
-- -----------------------------------------------------------------------------------------

theorem escape_append (t u : Text) : escape (t ++ u) = escape t ++ escape u := by
  simp [escape]

theorem escape_flatMap (f : α → Text) (as : List α) :
    escape (as.flatMap f) = as.flatMap fun a => escape (f a) := by
  simp [escape, List.flatMap_assoc]

theorem escape_cons (c : Char) (t : Text) :
    (c = '&' ∧ escape (c :: t) = "&amp;".toList ++ escape t) ∨
      (c = '<' ∧ escape (c :: t) = "&lt;".toList ++ escape t) ∨
      (c = '>' ∧ escape (c :: t) = "&gt;".toList ++ escape t) ∨
      (c ≠ '&' ∧ c ≠ '<' ∧ c ≠ '>' ∧ escape (c :: t) = c :: escape t) := by
  by_cases hand : c = '&'
  · subst hand
    exact .inl ⟨rfl, rfl⟩
  · by_cases hless : c = '<'
    · subst hless
      exact .inr (.inl ⟨rfl, rfl⟩)
    · by_cases hmore : c = '>'
      · subst hmore
        exact .inr (.inr (.inl ⟨rfl, rfl⟩))
      · refine .inr (.inr (.inr ⟨hand, hless, hmore, ?_⟩))
        simp [escape]

theorem unescape?_escape (t : Text) : unescape? (escape t) = some t := by
  induction t with
  | nil => rfl
  | cons c t ih =>
    obtain ⟨rfl, he⟩ | ⟨rfl, he⟩ | ⟨rfl, he⟩ | ⟨hand, hless, hmore, he⟩ := escape_cons c t
    · rw [he]
      exact congrArg (Option.map _) ih
    · rw [he]
      exact congrArg (Option.map _) ih
    · rw [he]
      exact congrArg (Option.map _) ih
    · rw [he, unescape?] <;> simp [hand, hless, hmore, ih]

/-- A character of an escaped text stands in the text, unless the escapes themselves have it. -/
theorem mem_escape (hc : c ∈ escape t) : c ∈ "&amp;&lt;&gt;".toList ∨ (c ∈ t ∧ c ≠ '<' ∧ c ≠ '>') := by
  induction t with
  | nil => cases hc
  | cons x t ih =>
    have hrest : c ∈ escape t →
        c ∈ "&amp;&lt;&gt;".toList ∨ (c ∈ x :: t ∧ c ≠ '<' ∧ c ≠ '>') :=
      fun h => (ih h).imp_right (And.imp_left (List.mem_cons_of_mem x))
    obtain ⟨-, he⟩ | ⟨-, he⟩ | ⟨-, he⟩ | ⟨-, hless, hmore, he⟩ := escape_cons x t
    all_goals rw [he] at hc
    · obtain hc | hc := List.mem_append.mp hc
      · exact .inl (List.mem_append_left "&lt;&gt;".toList hc)
      · exact hrest hc
    · obtain hc | hc := List.mem_append.mp hc
      · exact .inl (List.mem_append_right "&amp;".toList (List.mem_append_left "&gt;".toList hc))
      · exact hrest hc
    · obtain hc | hc := List.mem_append.mp hc
      · exact .inl (List.mem_append_right "&amp;&lt;".toList hc)
      · exact hrest hc
    · obtain rfl | hc := List.mem_cons.mp hc
      · exact .inr ⟨List.mem_cons_self, hless, hmore⟩
      · exact hrest hc

theorem less_not_mem_escape (t : Text) : '<' ∉ escape t := fun h =>
  (mem_escape h).elim (by decide) fun h => h.2.1 rfl

theorem newline_not_mem_escape (ht : '\n' ∉ t) : '\n' ∉ escape t := fun h =>
  (mem_escape h).elim (by decide) fun h => ht h.1

-- -----------------------------------------------------------------------------------------
-- Tags
-- -----------------------------------------------------------------------------------------

def markup (ts : List (Text × Text)) : Text := ts.flatMap fun x => '<' :: (x.1 ++ '>' :: x.2)

/-- No tag, and no text behind one, could be taken for the start of another tag. -/
def Clean (ts : List (Text × Text)) : Prop := ∀ x ∈ ts, '<' ∉ x.1 ∧ '>' ∉ x.1 ∧ '<' ∉ x.2

theorem Clean.nil : Clean [] := List.forall_mem_nil _

theorem Clean.cons (htag : '<' ∉ tag ∧ '>' ∉ tag) (ht : '<' ∉ t) (h : Clean ts) :
    Clean ((tag, t) :: ts) :=
  List.forall_mem_cons.mpr ⟨⟨htag.1, htag.2, ht⟩, h⟩

theorem Clean.append (hts : Clean ts) (hus : Clean us) : Clean (ts ++ us) :=
  List.forall_mem_append.mpr ⟨hts, hus⟩

theorem markup_append (ts us : List (Text × Text)) : markup (ts ++ us) = markup ts ++ markup us :=
  List.flatMap_append

theorem mapM_splitFirst? (h : Clean ts) :
    (ts.map fun x => x.1 ++ '>' :: x.2).mapM (Text.splitFirst? '>') = some ts := by
  induction ts with
  | nil => rfl
  | cons x ts ih =>
    obtain ⟨hx, hts⟩ := List.forall_mem_cons.mp h
    rw [List.map_cons, List.mapM_cons, Text.splitFirst?_append hx.2.1, ih hts]
    rfl

theorem tags?_markup (h : Clean ts) : tags? (markup ts) = some ts := by
  have hpieces : ∀ x ∈ ts, '<' ∉ x.1 ++ '>' :: x.2 := by
    intro x hx
    obtain ⟨htag, -, ht⟩ := h x hx
    simp [htag, ht]
  simpa only [tags?, markup, Text.splitOn_flatMap_cons hpieces] using mapM_splitFirst? h

-- -----------------------------------------------------------------------------------------
-- Cells
-- -----------------------------------------------------------------------------------------

/-- A line of the article as a cell has it: some of its runs are marked, and none of these are
empty. -/
inductive Content : Text → Text → Prop
  | nil : Content [] []
  | plain (t : Text) : Content content line → Content (escape t ++ content) (t ++ line)
  | marked : t ≠ [] → Content content line →
      Content (markStart ++ escape t ++ markStop ++ content) (t ++ line)

theorem cellsFrom_mark {found : List (Text × Text)} (ht : t ≠ [])
    (h : cellsFrom .cell rest = some (line, found)) :
    cellsFrom .cell ((markTag, escape t) :: (markEnd, escape start) :: rest) =
      some (t ++ (start ++ line), found) := by
  have hempty : (escape t).isEmpty = false := by
    rw [List.isEmpty_eq_false_iff]
    intro hnil
    have hback := unescape?_escape t
    rw [hnil] at hback
    exact ht (Option.some.inj hback).symm
  have hend : (markTag == cellEnd) = false := by decide
  simp [cellsFrom, hempty, hend, unescape?_escape, h]

namespace Content

theorem ofLine (line : Text) : Content (escape line) line := by
  simpa using plain line nil

theorem newline_not_mem (h : Content content line) (hline : '\n' ∉ line) : '\n' ∉ content := by
  induction h with
  | nil => exact List.not_mem_nil
  | plain t _ ih =>
    obtain ⟨ht, hrest⟩ := not_or.mp (hline ∘ List.mem_append.mpr)
    simp [newline_not_mem_escape ht, ih hrest]
  | marked _ _ ih =>
    obtain ⟨ht, hrest⟩ := not_or.mp (hline ∘ List.mem_append.mpr)
    have hstart : '\n' ∉ markStart := by decide
    have hstop : '\n' ∉ markStop := by decide
    simp [newline_not_mem_escape ht, ih hrest, hstart, hstop]

/-- Read up to the end of its cell, the content is the line. -/
theorem read (h : Content content line) :
    ∃ start ts, content = escape start ++ markup ts ∧ Clean ts ∧
      ∀ rest found, cellsFrom .row rest = some ([], found) →
        ∃ later, cellsFrom .cell (ts ++ (cellEnd, []) :: rest) = some (later, found) ∧
          start ++ later = line := by
  induction h with
  | nil => exact ⟨[], [], rfl, .nil, fun rest found hrest => ⟨[], hrest, rfl⟩⟩
  | plain t _ ih =>
    obtain ⟨start, ts, rfl, hclean, hread⟩ := ih
    refine ⟨t ++ start, ts, by simp [escape_append], hclean, fun rest found hrest => ?_⟩
    obtain ⟨later, hlater, rfl⟩ := hread rest found hrest
    exact ⟨later, hlater, List.append_assoc _ _ _⟩
  | @marked t _ _ ht _ ih =>
    obtain ⟨start, ts, rfl, hclean, hread⟩ := ih
    refine ⟨[], (markTag, escape t) :: (markEnd, escape start) :: ts, ?_, ?_,
      fun rest found hrest => ?_⟩
    · have hstart : markStart = '<' :: (markTag ++ ['>']) := rfl
      have hstop : markStop = '<' :: (markEnd ++ ['>']) := rfl
      simp [markup, hstart, hstop, show escape [] = [] from rfl]
    · have hmark : '<' ∉ markTag ∧ '>' ∉ markTag := by decide
      have hend : '<' ∉ markEnd ∧ '>' ∉ markEnd := by decide
      exact .cons hmark (less_not_mem_escape t) (.cons hend (less_not_mem_escape start) hclean)
    · obtain ⟨later, hlater, rfl⟩ := hread rest found hrest
      exact ⟨t ++ (start ++ later), cellsFrom_mark ht hlater, rfl⟩

end Content

-- -----------------------------------------------------------------------------------------
-- Words
-- -----------------------------------------------------------------------------------------

theorem wordRange_eq (words : List Word) (start stop : Nat) (same : Bool) :
    wordRange words start stop same =
      if stop ≤ start then []
      else if same then escape ((words.extract start stop).flatMap Word.text)
      else markStart ++ escape ((words.extract start stop).flatMap Word.text) ++ markStop := by
  have hshown : (words.extract start stop).flatMap (fun w => escape w.body ++ escape w.trailing) =
      escape ((words.extract start stop).flatMap Word.text) := by
    rw [escape_flatMap]
    exact List.flatMap_congr fun w _ => (escape_append w.body w.trailing).symm
  rw [← hshown, List.extract_eq_take_drop]
  rfl

theorem content_wordRange (hbodies : ∀ w ∈ words, w.body ≠ []) (hstop : stop ≤ words.length)
    (same : Bool) (h : Content content line) :
    Content (wordRange words start stop same ++ content)
      ((words.extract start stop).flatMap Word.text ++ line) := by
  rw [wordRange_eq]
  split_ifs with hempty hsame
  · have hnil : words.extract start stop = [] := by
      simp [List.extract_eq_take_drop, Nat.sub_eq_zero_of_le hempty]
    simpa [hnil] using h
  · exact .plain _ h
  · refine .marked (fun hnil => ?_) h
    -- What is marked has a first word, and that has a body.
    have hmem : words[start] ∈ words.extract start stop := by
      rw [List.extract_eq_take_drop, List.mem_take_iff_getElem]
      exact ⟨0, by simp; omega, by simp⟩
    have htext := List.flatMap_eq_nil_iff.mp hnil _ hmem
    exact hbodies _ (List.getElem_mem _) (List.append_eq_nil_iff.mp htext).1

/-- The ranges of the hunks, one after another. -/
theorem content_words {words : List Word} {hs : List Hunk} (start stop : Hunk → Nat)
    (hbodies : ∀ w ∈ words, w.body ≠ []) (hstop : ∀ h ∈ hs, stop h ≤ words.length) :
    Content (hs.flatMap fun h => wordRange words (start h) (stop h) h.same)
      ((hs.flatMap fun h => words.extract (start h) (stop h)).flatMap Word.text) := by
  induction hs with
  | nil => exact .nil
  | cons h hs ih =>
    obtain ⟨hh, hhs⟩ := List.forall_mem_cons.mp hstop
    rw [List.flatMap_cons, List.flatMap_cons, List.flatMap_append]
    exact content_wordRange hbodies hh h.same (ih hhs)

theorem content_leftWords (left right : Text) :
    Content (leftWords (WordDiff.ofLines left right)) left := by
  have hbodies : ∀ w ∈ Word.ofLine left, w.body ≠ [] := fun _ => Word.body_ne_nil_of_mem_ofLine
  have hstops : ∀ h ∈ (WordDiff.ofLines left right).hunks, h.leftStop ≤ (Word.ofLine left).length :=
    fun _ => WordDiff.leftStop_le
  have hcontent := content_words Hunk.leftStart Hunk.leftStop hbodies hstops
  rwa [WordDiff.left_slices, Word.text_ofLine] at hcontent

theorem content_rightWords (left right : Text) :
    Content (rightWords (WordDiff.ofLines left right)) right := by
  have hbodies : ∀ w ∈ Word.ofLine right, w.body ≠ [] := fun _ => Word.body_ne_nil_of_mem_ofLine
  have hstops :
      ∀ h ∈ (WordDiff.ofLines left right).hunks, h.rightStop ≤ (Word.ofLine right).length :=
    fun _ => WordDiff.rightStop_le
  have hcontent := content_words Hunk.rightStart Hunk.rightStop hbodies hstops
  rwa [WordDiff.right_slices, Word.text_ofLine] at hcontent

-- -----------------------------------------------------------------------------------------
-- Rows
-- -----------------------------------------------------------------------------------------

theorem cellsFrom_sign {found : List (Text × Text)} (htag : tag ∈ signCells)
    (h : cellsFrom .row rest = some ([], found)) :
    cellsFrom .row ((tag, t) :: (cellEnd, []) :: rest) = some ([], (tag, t) :: found) := by
  have hother : ∀ tag ∈ signCells, tag ∉ articleCells := by decide
  simp [cellsFrom, hother tag htag, htag, h]

theorem cellsFrom_article {found : List (Text × Text)} (htag : tag ∈ articleCells)
    (h : cellsFrom .cell rest = some (line, found)) :
    cellsFrom .row ((tag, escape start) :: rest) = some ([], (tag, start ++ line) :: found) := by
  simp [cellsFrom, htag, unescape?_escape, h]

theorem cellsFrom_rowEnd : cellsFrom .row [(rowEnd, [])] = some ([], []) := rfl

theorem cell_eq (attributes : String) (content : Text) :
    cell attributes content =
      '<' :: ("td ".toList ++ attributes.toList ++ '>' :: (content ++ '<' :: (cellEnd ++ ['>']))) := by
  unfold cell
  simp [cellEnd]

/-- No tag of a cell could be taken for anything else, or end its line. -/
theorem clean_of_mem_cells :
    ∀ tag ∈ articleCells ++ signCells, ('<' ∉ tag ∧ '>' ∉ tag) ∧ '\n' ∉ tag := by
  decide

theorem newline_not_mem_cell (htag : '\n' ∉ "td ".toList ++ attributes.toList) (ht : '\n' ∉ t) :
    '\n' ∉ cell attributes t := by
  obtain ⟨-, hattributes⟩ := not_or.mp (htag ∘ List.mem_append.mpr)
  simp [cell_eq, cellEnd, hattributes, ht]

/-- Some cells of a row that say this. -/
structure Reads (html : Text) (shown : List (Text × Text)) : Prop where
  read : ∃ ts, html = markup ts ∧ Clean ts ∧ ∀ rest found, cellsFrom .row rest = some ([], found) →
    cellsFrom .row (ts ++ rest) = some ([], shown ++ found)
  newline_not_mem : (∀ x ∈ shown, '\n' ∉ x.2) → '\n' ∉ html

namespace Reads

theorem append (h : Reads html shown) (h' : Reads html' shown') :
    Reads (html ++ html') (shown ++ shown') where
  read := by
    obtain ⟨ts, rfl, hclean, hread⟩ := h.read
    obtain ⟨ts', rfl, hclean', hread'⟩ := h'.read
    refine ⟨ts ++ ts', (markup_append ts ts').symm, hclean.append hclean', fun rest found hrest => ?_⟩
    rw [List.append_assoc, List.append_assoc]
    exact hread _ _ (hread' _ _ hrest)
  newline_not_mem hlines hmem := by
    obtain ⟨hshown, hshown'⟩ := List.forall_mem_append.mp hlines
    obtain hmem | hmem := List.mem_append.mp hmem
    · exact h.newline_not_mem hshown hmem
    · exact h'.newline_not_mem hshown' hmem

theorem sign (htag : "td ".toList ++ attributes.toList ∈ signCells) (ht : '<' ∉ t) :
    Reads (cell attributes t) [("td ".toList ++ attributes.toList, t)] where
  read := by
    obtain ⟨hclean, -⟩ := clean_of_mem_cells _ (List.mem_append_right _ htag)
    refine ⟨[("td ".toList ++ attributes.toList, t), (cellEnd, [])], ?_, ?_,
      fun rest found hrest => cellsFrom_sign htag hrest⟩
    · simp [cell_eq, markup]
    · exact .cons hclean ht (.cons (by decide) List.not_mem_nil .nil)
  newline_not_mem hlines := by
    obtain ⟨-, hnewline⟩ := clean_of_mem_cells _ (List.mem_append_right _ htag)
    exact newline_not_mem_cell hnewline (hlines _ List.mem_cons_self)

theorem article (htag : "td ".toList ++ attributes.toList ∈ articleCells)
    (hcontent : Content content line) :
    Reads (cell attributes content) [("td ".toList ++ attributes.toList, line)] where
  read := by
    obtain ⟨hclean, -⟩ := clean_of_mem_cells _ (List.mem_append_left _ htag)
    obtain ⟨start, ts, rfl, hts, hread⟩ := hcontent.read
    refine ⟨("td ".toList ++ attributes.toList, escape start) :: ts ++ [(cellEnd, [])], ?_, ?_,
      fun rest found hrest => ?_⟩
    · simp [cell_eq, markup]
    · exact (hts.cons hclean (less_not_mem_escape start)).append
        (.cons (by decide) List.not_mem_nil .nil)
    · obtain ⟨later, hlater, rfl⟩ := hread rest found hrest
      rw [List.cons_append, List.cons_append, List.append_assoc, List.singleton_append]
      exact cellsFrom_article htag hlater
  newline_not_mem hlines := by
    obtain ⟨-, hnewline⟩ := clean_of_mem_cells _ (List.mem_append_left _ htag)
    exact newline_not_mem_cell hnewline
      (hcontent.newline_not_mem (hlines _ List.mem_cons_self))

/-- The cells between the tags of a row. -/
theorem cells?_eq (h : Reads html shown) :
    cells? ("<tr>".toList ++ html ++ "</tr>".toList) = some shown := by
  obtain ⟨ts, rfl, hclean, hread⟩ := h.read
  have hmarkup : "<tr>".toList ++ markup ts ++ "</tr>".toList =
      markup ((rowTag, []) :: (ts ++ [(rowEnd, [])])) := by
    simp [markup, rowTag, rowEnd]
  have htags := tags?_markup (.cons (by decide) List.not_mem_nil
    (hclean.append (.cons (by decide) List.not_mem_nil .nil)) :
      Clean ((rowTag, []) :: (ts ++ [(rowEnd, [])])))
  have hrow := hread _ _ cellsFrom_rowEnd
  rw [List.append_nil] at hrow
  rw [hmarkup, cells?, htags]
  simp [hrow]

end Reads

theorem reads_contextCell (line : Text) :
    Reads (contextCell line) [(markerTag, "&#160;".toList), (contextTag, line)] :=
  .append (.sign (by decide) (by decide)) (.article (by decide) (.ofLine line))

theorem reads_deletedCell (h : Content content line) :
    Reads (deletedCell content) [(markerTag, "−".toList), (deletedTag, line)] :=
  .append (.sign (by decide) (by decide)) (.article (by decide) h)

theorem reads_addedCell (h : Content content line) :
    Reads (addedCell content) [(markerTag, "+".toList), (addedTag, line)] :=
  .append (.sign (by decide) (by decide)) (.article (by decide) h)

theorem reads_emptyCell : Reads emptyCell [(emptyTag, "&#160;".toList)] :=
  .sign (by decide) (by decide)

/-- The text in place of line `i`, counted from zero, where a block of rows begins. -/
def lineLabel (i : Nat) : Text := "Line ".toList ++ Text.ofNat (i + 1) ++ ":".toList

theorem not_mem_lineLabel (hdigit : Chars.isAsciiDigit c = false) (hline : c ∉ "Line ".toList)
    (hcolon : c ∉ ":".toList) (i : Nat) : c ∉ lineLabel i := by
  intro h
  unfold lineLabel at h
  rw [List.mem_append, List.mem_append] at h
  obtain (h | h) | h := h
  · exact hline h
  · rw [Text.isAsciiDigit_of_mem_ofNat h] at hdigit
    cases hdigit
  · exact hcolon h

theorem reads_lineNumber (i : Nat) : Reads (lineNumber i) [(numberTag, lineLabel i)] :=
  .sign (by decide) (not_mem_lineLabel (by decide) (by decide) (by decide) i)

end Html

-- -----------------------------------------------------------------------------------------
-- The table
-- -----------------------------------------------------------------------------------------

open Html in
/-- What a row of the table has to say, for the lines of the two sides. -/
inductive Row.Says (left right : List Text) : Row → List (Text × Text) → Prop
  | header : Says left right (.header i j) [(numberTag, lineLabel i), (numberTag, lineLabel j)]
  | context : left[i]? = some line → right[j]? = some line' → Says left right (.context i j)
      [(markerTag, "&#160;".toList), (contextTag, line),
        (markerTag, "&#160;".toList), (contextTag, line')]
  | changed : left[i]? = some line → right[j]? = some line' → Says left right (.changed i j)
      [(markerTag, "−".toList), (deletedTag, line), (markerTag, "+".toList), (addedTag, line')]
  | deleted : left[i]? = some line → Says left right (.deleted i)
      [(markerTag, "−".toList), (deletedTag, line), (emptyTag, "&#160;".toList)]
  | added : right[j]? = some line → Says left right (.added j)
      [(emptyTag, "&#160;".toList), (markerTag, "+".toList), (addedTag, line)]

namespace Row

theorem Says.newline_not_mem (h : Says left right r shown) (hleft : ∀ line ∈ left, '\n' ∉ line)
    (hright : ∀ line ∈ right, '\n' ∉ line) : ∀ x ∈ shown, '\n' ∉ x.2 := by
  have hlabel (i : Nat) : '\n' ∉ Html.lineLabel i :=
    Html.not_mem_lineLabel (by decide) (by decide) (by decide) i
  cases h with
  | header => simp [hlabel]
  | context hl hr =>
    simp [hleft _ (List.mem_of_getElem? hl), hright _ (List.mem_of_getElem? hr)]
  | changed hl hr =>
    simp [hleft _ (List.mem_of_getElem? hl), hright _ (List.mem_of_getElem? hr)]
  | deleted hl => simp [hleft _ (List.mem_of_getElem? hl)]
  | added hr => simp [hright _ (List.mem_of_getElem? hr)]

end Row

namespace TextDiff

open Diff

variable {left right : List Text} {n : Nat}

theorem exists_reads (hr : r ∈ (ofLines left right n).rows) :
    ∃ shown, r.Says left right shown ∧ Html.Reads (Html.cells (ofLines left right n) r) shown := by
  obtain ⟨h, hh, hshows⟩ := exists_hunk_of_mem_rows hr
  obtain ⟨hleft, hleftStop⟩ := left_bounds hh
  obtain ⟨hright, hrightStop⟩ := right_bounds hh
  cases hshows with
  | header => exact ⟨_, .header, .append (Html.reads_lineNumber _) (Html.reads_lineNumber _)⟩
  | @context k hsame hk =>
    have hlengths := (covers_hunks left right).same_length h hh hsame
    unfold Hunk.leftLength at hk hlengths
    unfold Hunk.rightLength at hlengths
    have hi : h.leftStart + k < left.length := by omega
    have hj : h.rightStart + k < right.length := by omega
    exact ⟨_, .context (leftLine_ofLines hi right n) (rightLine_ofLines hj left n),
      .append (Html.reads_contextCell _) (Html.reads_contextCell _)⟩
  | @changed k _ hk hk' =>
    unfold Hunk.leftLength at hk
    unfold Hunk.rightLength at hk'
    have hi : h.leftStart + k < left.length := by omega
    have hj : h.rightStart + k < right.length := by omega
    exact ⟨_, .changed (leftLine_ofLines hi right n) (rightLine_ofLines hj left n),
      .append (Html.reads_deletedCell (Html.content_leftWords _ _))
        (Html.reads_addedCell (Html.content_rightWords _ _))⟩
  | deleted _ _ hi =>
    have hlt := Nat.lt_of_lt_of_le hi hleftStop
    exact ⟨_, .deleted (leftLine_ofLines hlt right n),
      .append (Html.reads_deletedCell (.ofLine _)) Html.reads_emptyCell⟩
  | added _ _ hj =>
    have hlt := Nat.lt_of_lt_of_le hj hrightStop
    exact ⟨_, .added (rightLine_ofLines hlt left n),
      .append Html.reads_emptyCell (Html.reads_addedCell (.ofLine _))⟩

/-- Line by line, the table says what the rows of the comparison are about. -/
theorem html_shows_rows (left right : Text) (n : Nat) :
    ∃ lines, Text.splitOn '\n' (ofTexts left right n).html = lines ++ [[]] ∧
      List.Forall₂ (fun line r =>
          ∃ shown, Html.cells? line = some shown ∧ r.Says (splitLines left) (splitLines right) shown)
        lines (ofTexts left right n).rows := by
  rw [ofTexts_eq_ofLines]
  generalize hd : ofLines (splitLines left) (splitLines right) n = d
  have hrows : ∀ r ∈ d.rows, ∃ shown, r.Says (splitLines left) (splitLines right) shown ∧
      Html.Reads (Html.cells d r) shown := hd ▸ fun r hr => exists_reads hr
  have hline : ∀ r ∈ d.rows, '\n' ∉ "<tr>".toList ++ Html.cells d r ++ "</tr>".toList := by
    intro r hr
    obtain ⟨shown, hsaid, hreads⟩ := hrows r hr
    have hcells := hreads.newline_not_mem
      (hsaid.newline_not_mem (newline_not_mem_splitLines left) (newline_not_mem_splitLines right))
    simp [hcells]
  refine ⟨d.rows.map fun r => "<tr>".toList ++ Html.cells d r ++ "</tr>".toList, ?_, ?_⟩
  · have hrow : Html.row d = fun r =>
        ("<tr>".toList ++ Html.cells d r ++ "</tr>".toList) ++ ['\n'] := by
      funext r
      rw [List.append_assoc]
      rfl
    rw [html, hrow]
    exact Text.splitOn_flatMap hline
  · rw [List.forall₂_map_left_iff, List.forall₂_same]
    intro r hr
    obtain ⟨shown, hsaid, hreads⟩ := hrows r hr
    exact ⟨shown, hreads.cells?_eq, hsaid⟩

/-- A row with a mark that has no text says nothing. -/
example :
    Html.cells? ("<tr><td class='diff-context'>a" ++
      "<span class='diffchange diffchange-inline'></span></td></tr>").toList = none := by
  decide

end TextDiff

end Wikitext
