import Wikitext.Metadata
import Wikitext.Proofs.Category.Link
import Wikitext.Proofs.Metadata.Removal
import Wikitext.Proofs.Text.Feeds

/-!
# Kinds of metadata

Metadata of every kind stands between doubled brackets, and what a search tells of it depends on its
text alone. So the searches find all the words of their kinds (`Kind.mem_found`). Where these do not
get in each other's way (`Tidy`) they divide the text together (`sorted_moved`).
-/

namespace Wikitext.Metadata

open Pattern Category

-- -----------------------------------------------------------------------------------------
-- The patterns
-- -----------------------------------------------------------------------------------------

def keyPattern : Pattern :=
  (lit "\x7b\x7b" ++ blanks ++
    (lit "DEFAULTSORT" ++ opt (lit "KEY") <|> lit "DEFAULTCATEGORYSORT") ++ blanks ++
    oneOf ":|" ++ blanks ++ group 1 (manyLazy (noneOf "\x7b\x7d")) ++ blanks ++
    lit "\x7d\x7d").caseless

def templatePattern : Pattern :=
  lit "\x7b\x7b" ++ group 1 (many (noneOf "\x7b\x7d|")) ++ lit "\x7d\x7d"

def codePattern : Pattern :=
  between 2 3 lowerLetter ++ many (lit "-" ++ many1 lowerLetter) <|> lit "simple"

def interwikiPattern : Pattern :=
  lit "[[" ++ group 1 codePattern ++ gap ++ lit ":" ++ gap ++ group 2 (many1 (noneOf "[]|")) ++ lit "]]"

theorem enclosing_keyPattern : keyPattern.Enclosing '{' '}' := by
  have hopen : (lit "\x7b\x7b").caseless = ofText ['{', '{'] := caseless_ofText (by decide)
  have hclose : (lit "\x7d\x7d").caseless = ofText ['}', '}'] := caseless_ofText (by decide)
  simp only [keyPattern, caseless_append, hopen, hclose]
  refine Opening.enclosing ?_ (by decide) ?_
  · have h₀ := Opening.brackets '{' '}'
    have hblanks : blanks.caseless.avoids ['{', '}'] = true := by decide
    have hname : (lit "DEFAULTSORT" ++ opt (lit "KEY") <|>
        lit "DEFAULTCATEGORYSORT").caseless.avoids ['{', '}'] = true := by decide
    have hsign : (oneOf ":|").caseless.avoids ['{', '}'] = true := by decide
    have hkey : (group 1 (manyLazy (noneOf "\x7b\x7d"))).caseless.avoids ['{', '}'] = true := by decide
    exact ((((((h₀.append rfl hblanks).append rfl hname).append rfl hblanks).append rfl hsign).append rfl
      hblanks).append rfl hkey).append rfl hblanks
  · rfl

theorem enclosing_templatePattern : templatePattern.Enclosing '{' '}' :=
  ((Opening.brackets '{' '}').append (q := group 1 (many (noneOf "\x7b\x7d|"))) rfl
    (by decide)).enclosing (by decide) rfl

theorem enclosing_interwikiPattern : interwikiPattern.Enclosing '[' ']' :=
  ((((((Opening.brackets '[' ']').append (q := group 1 codePattern) rfl (by decide)).append (q := gap)
    rfl (by decide)).append (q := lit ":") rfl (by decide)).append (q := gap) rfl (by decide)).append
      (q := group 2 (many1 (noneOf "[]|"))) rfl (by decide)).enclosing (by decide) rfl

-- -----------------------------------------------------------------------------------------
-- What a search tells of templates and links to other wikis
-- -----------------------------------------------------------------------------------------

/-- What stands between the brackets. -/
def inner (w : Text) : Text := (w.drop 2).take (w.length - 4)

/-- The code of a link to another wiki stands in front of the first gap or colon. -/
def codeOf (w : Text) : Text := (w.drop 2).takeWhile fun c => !" \t:".toList.contains c

theorem group_templatePattern (h : templatePattern.Forms w gs) : gs = [(1, inner w)] := by
  obtain ⟨_, _, _, _, rfl, rfl, h', hclose⟩ := (forms_append rfl rfl).mp h
  obtain ⟨_, x, _, _, rfl, rfl, hopen, hgroup⟩ := (forms_append rfl rfl).mp h'
  obtain ⟨rfl, rfl⟩ := forms_ofText.mp hopen
  obtain ⟨rfl, rfl⟩ := forms_ofText.mp hclose
  obtain ⟨gs', rfl, hrun⟩ := forms_group.mp hgroup
  obtain ⟨-, rfl⟩ := forms_run.mp hrun
  simp [inner]

theorem group_interwikiPattern (h : interwikiPattern.Forms w gs) :
    gs.lookup 1 = some (codeOf w) := by
  obtain ⟨_, _, _, _, rfl, rfl, h₅, hclose⟩ := (forms_append rfl rfl).mp h
  obtain ⟨_, x, _, _, rfl, rfl, h₄, htitle⟩ := (forms_append rfl rfl).mp h₅
  obtain ⟨_, g', _, _, rfl, rfl, h₃, hgap'⟩ := (forms_append rfl rfl).mp h₄
  obtain ⟨_, _, _, _, rfl, rfl, h₂, hcolon⟩ := (forms_append rfl rfl).mp h₃
  obtain ⟨_, g, _, _, rfl, rfl, h₁, hgap⟩ := (forms_append rfl rfl).mp h₂
  obtain ⟨_, code, _, _, rfl, rfl, hopen, hcode⟩ := (forms_append rfl rfl).mp h₁
  obtain ⟨rfl, rfl⟩ := forms_ofText.mp hopen
  obtain ⟨rfl, rfl⟩ := forms_ofText.mp hclose
  obtain ⟨rfl, rfl⟩ := forms_ofText.mp hcolon
  obtain ⟨hg, rfl⟩ := forms_gap.mp hgap
  obtain ⟨-, rfl⟩ := forms_gap.mp hgap'
  obtain ⟨gs₁, rfl, hinner⟩ := forms_group.mp hcode
  obtain rfl := hinner.groups_eq_nil rfl
  obtain ⟨gs₂, rfl, hrest⟩ := forms_group.mp htitle
  obtain rfl := hrest.groups_eq_nil rfl
  have hoff : ∀ c ∈ code, c ∉ " \t:".toList := hinner.avoids (by decide)
  have hin : ∀ c ∈ code, (!" \t:".toList.contains c) = true := fun c hc => by
    simpa using hoff c hc
  have hstop : ∀ c ∈ (g ++ (':' :: (g' ++ (x ++ [']', ']'])))).head?,
      (!" \t:".toList.contains c) = false := by
    cases g with
    | nil => simp
    | cons d g =>
      have hall : ∀ d ∈ " \t".toList, (!" \t:".toList.contains d) = false := by decide
      intro c hc
      obtain rfl : d = c := by simpa using hc
      exact hall d (List.contains_iff_mem.mp (hg d List.mem_cons_self))
  have hcode : codeOf ("[[".toList ++ code ++ g ++ ":".toList ++ g' ++ x ++ "]]".toList) = code := by
    simpa [codeOf] using Text.takeWhile_append_stop hin hstop
  rw [hcode]
  rfl

-- -----------------------------------------------------------------------------------------
-- Kinds
-- -----------------------------------------------------------------------------------------

/-- The kinds of metadata, in the order in which they are put at the end. -/
inductive Kind
  | key
  | category
  | stub
  | interwiki
  deriving DecidableEq

namespace Kind

def all : List Kind := [key, category, stub, interwiki]

def opening : Kind → Char
  | key | stub => '\x7b'
  | category | interwiki => '['

def closing : Kind → Char
  | key | stub => '\x7d'
  | category | interwiki => ']'

def pattern (p : Profile) : Kind → Pattern
  | key => keyPattern
  | category => linkPattern p.categoryNamespace
  | stub => templatePattern
  | interwiki => interwikiPattern

/-- Whether the word is one of those that count. -/
def counts (v : Vocabulary) (w : Text) : Kind → Bool
  | key | category => true
  | stub => v.stub.isMatch (Text.trim (inner w))
  | interwiki => v.profile.isInterwikiCode (codeOf w)

/-- The metadata of this kind. -/
def found (v : Vocabulary) (t : Text) : Kind → List Match
  | key => defaultSortVariants.matches' t
  | category => v.category.matches' t
  | stub => stubs v t
  | interwiki => interwikis v t

/-- The texts that are metadata of this kind. -/
def Word (p : Profile) (v : Vocabulary) (k : Kind) (w : Text) : Prop :=
  (k.pattern p).Words w ∧ k.counts v w = true

-- -----------------------------------------------------------------------------------------
-- Words between brackets
-- -----------------------------------------------------------------------------------------

section
variable {p : Profile} {v : Vocabulary} (hns : Nameable p.categoryNamespace)
include hns

theorem enclosing (k : Kind) : (k.pattern p).Enclosing k.opening k.closing := by
  cases k with
  | key => exact enclosing_keyPattern
  | category => exact enclosing_linkPattern hns
  | stub => exact enclosing_templatePattern
  | interwiki => exact enclosing_interwikiPattern

theorem Word.enclosed {k : Kind} (h : k.Word p v w) : Enclosed k.opening k.closing w :=
  (enclosing hns k).enclosed w h.1

theorem separate_word (k : Kind) : Separate (k.Word p v) :=
  fun hw hw' => (enclosing hns k).separate hw.1 hw'.1

end

-- -----------------------------------------------------------------------------------------
-- What the searches find
-- -----------------------------------------------------------------------------------------

section
variable {p : Profile} {v : Vocabulary} (hv : Vocabulary.ofProfile p = .ok v)
include hv

/-- Whether a match counts depends on its text alone. -/
theorem found_eq (k : Kind) (t : Text) :
    k.found v t = ((k.pattern p).compile.matches' t).filter fun m => k.counts v m.text := by
  cases k with
  | key => exact (List.filter_true _).symm
  | category =>
    change v.category.matches' t = _
    rw [category_eq hv]
    exact (List.filter_true _).symm
  | stub =>
    refine List.filter_congr fun m hm => ?_
    have hgroup := group_templatePattern
      (reads_of_mem_matches enclosing_templatePattern.toLexical hm)
    rw [isStub, Match.group, m.group?_eq (by decide), hgroup]
    rfl
  | interwiki =>
    refine List.filter_congr fun m hm => ?_
    have hgroup := group_interwikiPattern
      (reads_of_mem_matches enclosing_interwikiPattern.toLexical hm)
    rw [Match.group, m.group?_eq (by decide), hgroup]
    rfl

variable (hns : Nameable p.categoryNamespace)
include hns

theorem places_found (k : Kind) (t : Text) : ∃ parts tail, Divided (k.Word p v) t parts tail ∧
    (k.found v t).map (fun m => (Stretch.ofMatch t m, m.text)) = placesFrom 0 parts := by
  have henc := enclosing hns k
  rw [found_eq hv]
  exact exists_division henc.toLexical henc.separate (fun w => k.counts v w) t

/-- The search finds every word of the kind. -/
theorem mem_found (k : Kind) (t : Text) :
    (∃ m ∈ k.found v t, Stretch.ofMatch t m = s ∧ m.text = w) ↔
      ∃ a b, k.Word p v w ∧ t = a ++ (w ++ b) ∧ s = ⟨a.length, a.length + w.length⟩ := by
  obtain ⟨parts, tail, hdiv, hplaces⟩ := places_found hv hns k t
  have hmem := hdiv.mem_placesFrom (s := s) (w := w) (separate_word hns k) 0
  simp only [Nat.zero_add] at hmem
  rw [← hmem, ← hplaces, List.mem_map]
  simp only [Prod.mk.injEq]

/-- The words that are found are those of any division. -/
theorem texts_found {k : Kind} (h : Divided (k.Word p v) t parts tail) :
    (k.found v t).map (·.text) = parts.map (·.2) := by
  obtain ⟨parts', tail', hdiv, hplaces⟩ := places_found hv hns k t
  obtain ⟨rfl, -⟩ := h.unique (separate_word hns k) hdiv
  rw [← placesFrom_snd 0, ← hplaces, List.map_map]
  rfl

theorem nodup_found (k : Kind) (t : Text) : ((k.found v t).map (Stretch.ofMatch t)).Nodup := by
  obtain ⟨parts, tail, hdiv, hplaces⟩ := places_found hv hns k t
  have hstretches : (k.found v t).map (Stretch.ofMatch t) = stretchesFrom 0 parts := by
    rw [← placesFrom_fst, ← hplaces, List.map_map]
    rfl
  rw [hstretches]
  exact hdiv.nodup_stretchesFrom (fun w hw => (hw.enclosed hns).ne_nil) 0

end

end Kind

-- -----------------------------------------------------------------------------------------
-- Metadata of all kinds
-- -----------------------------------------------------------------------------------------

/-- Brackets of one kind alone are closed in the text. -/
def Neat (w : Text) : Prop := ¬ ("]]".toList <:+: w ∧ "\x7d\x7d".toList <:+: w)

/-- The texts that can be moved without harm. -/
def Movable (p : Profile) (v : Vocabulary) (w : Text) : Prop := (∃ k : Kind, k.Word p v w) ∧ Neat w

/-- No piece of metadata gets in the way of another one: none has closing brackets of both kinds,
and none is metadata of two kinds. -/
structure Tidy (v : Vocabulary) (t : Text) : Prop where
  neat : ∀ k : Kind, ∀ m ∈ k.found v t, Neat m.text
  oneKind : ∀ k k' : Kind, ∀ m ∈ k.found v t, ∀ m' ∈ k'.found v t, m.text = m'.text → k = k'

theorem Kind.mem_all (k : Kind) : k ∈ Kind.all := by
  cases k <;> decide

instance : Decidable (Neat w) := inferInstanceAs (Decidable (¬ _))

theorem tidy_iff : Tidy v t ↔ (∀ k ∈ Kind.all, ∀ m ∈ k.found v t, Neat m.text) ∧
    ∀ k ∈ Kind.all, ∀ k' ∈ Kind.all, ∀ m ∈ k.found v t, ∀ m' ∈ k'.found v t,
      m.text = m'.text → k = k' :=
  ⟨fun h => ⟨fun k _ => h.neat k, fun k _ k' _ => h.oneKind k k'⟩,
    fun h => ⟨fun k => h.1 k k.mem_all, fun k k' => h.2 k k.mem_all k' k'.mem_all⟩⟩

instance : Decidable (Tidy v t) := decidable_of_iff _ tidy_iff.symm

theorem moved_eq (v : Vocabulary) (t : Text) : moved v t = Kind.all.flatMap (Kind.found v t) := by
  simp [moved, Kind.all, Kind.found]

theorem mem_moved : m ∈ moved v t ↔ ∃ k : Kind, m ∈ k.found v t := by
  rw [moved_eq, List.mem_flatMap]
  exact ⟨fun ⟨k, _, hm⟩ => ⟨k, hm⟩, fun ⟨k, hm⟩ => ⟨k, k.mem_all, hm⟩⟩

section
variable {p : Profile} {v : Vocabulary} (hns : Nameable p.categoryNamespace)
include hns

/-- Words of two kinds of brackets. -/
theorem Movable.brackets (h : Movable p v w) :
    (Enclosed '[' ']' w ∧ ¬ "\x7d\x7d".toList <:+: w) ∨
      (Enclosed '\x7b' '\x7d' w ∧ ¬ "]]".toList <:+: w) := by
  obtain ⟨⟨k, hk⟩, hneat⟩ := h
  have henc := hk.enclosed hns
  cases k with
  | key | stub => exact .inr ⟨henc, fun h => hneat ⟨h, henc.suffix.isInfix⟩⟩
  | category | interwiki => exact .inl ⟨henc, fun h => hneat ⟨henc.suffix.isInfix, h⟩⟩

theorem separate_movable : Separate (Movable p v) := by
  intro w w' a r r' hw hw' h
  rcases hw.brackets hns with ⟨henc, hno⟩ | ⟨henc, hno⟩ <;>
    rcases hw'.brackets hns with ⟨henc', hno'⟩ | ⟨henc', hno'⟩
  · exact separate_enclosed (by decide) henc henc' h
  · exact .inr (apart_enclosed henc henc' hno hno' (by decide) h)
  · exact .inr (apart_enclosed henc henc' hno hno' (by decide) h)
  · exact separate_enclosed (by decide) henc henc' h

theorem capped_movable : Capped (Movable p v) := by
  intro w hw
  rcases hw.brackets hns with ⟨henc, -⟩ | ⟨henc, -⟩
  · exact capped_enclosed (L := Enclosed '[' ']') (by decide) (fun _ h => h) w henc
  · exact capped_enclosed (L := Enclosed '\x7b' '\x7d') (by decide) (fun _ h => h) w henc

theorem solid_movable : Solid (Movable p v) := by
  intro w hw
  rcases hw.brackets hns with ⟨henc, -⟩ | ⟨henc, -⟩
  · exact henc.firm (by decide) (by decide)
  · exact henc.firm (by decide) (by decide)

theorem Movable.ne_nil (h : Movable p v w) : w ≠ [] := by
  rcases h.brackets hns with ⟨henc, -⟩ | ⟨henc, -⟩
  · exact henc.ne_nil
  · exact henc.ne_nil

theorem free_nil_movable : Free (Movable p v) [] := by
  intro w hw hi
  exact hw.ne_nil hns (List.infix_nil.mp hi)

variable (hv : Vocabulary.ofProfile p = .ok v)
include hv

/-- The searches find what can be moved, where it stands. -/
theorem mem_stretches_moved (h : Tidy v t) :
    s ∈ (moved v t).map (Stretch.ofMatch t) ↔ Occurs (Movable p v) t s := by
  rw [List.mem_map]
  constructor
  · rintro ⟨m, hm, rfl⟩
    obtain ⟨k, hm⟩ := mem_moved.mp hm
    obtain ⟨a, b, hw, ht, hs⟩ := (Kind.mem_found hv hns k t).mp ⟨m, hm, rfl, rfl⟩
    exact ⟨a, m.text, b, ⟨⟨k, hw⟩, h.neat k m hm⟩, ht, hs⟩
  · rintro ⟨a, w, b, ⟨⟨k, hw⟩, -⟩, ht, hs⟩
    obtain ⟨m, hm, hstretch, -⟩ := (Kind.mem_found hv hns k t).mpr ⟨a, b, hw, ht, hs⟩
    exact ⟨m, mem_moved.mpr ⟨k, hm⟩, hstretch⟩

theorem nodup_moved (h : Tidy v t) : ((moved v t).map (Stretch.ofMatch t)).Nodup := by
  rw [moved_eq, List.map_flatMap, List.nodup_flatMap]
  refine ⟨fun k _ => Kind.nodup_found hv hns k t, ?_⟩
  have hdistinct : Kind.all.Nodup := by decide
  refine hdistinct.imp fun {k k'} hne s hs hs' => hne ?_
  obtain ⟨m, hm, hstretch⟩ := List.mem_map.mp hs
  obtain ⟨m', hm', hstretch'⟩ := List.mem_map.mp hs'
  obtain ⟨a, b, -, ht, he⟩ := (Kind.mem_found hv hns k t).mp ⟨m, hm, hstretch, rfl⟩
  obtain ⟨a', b', -, ht', he'⟩ := (Kind.mem_found hv hns k' t).mp ⟨m', hm', hstretch', rfl⟩
  exact h.oneKind k k' m hm m' hm'
    ((Stretch.slice_stretch ht he).symm.trans (Stretch.slice_stretch ht' he'))

/-- In the order in which they stand. -/
theorem sorted_moved (h : Tidy v t) (hdiv : Divided (Movable p v) t parts tail) :
    Stretch.sorted ((moved v t).map (Stretch.ofMatch t)) = stretchesFrom 0 parts := by
  have hne : ∀ w, Movable p v w → w ≠ [] := fun w hw => hw.ne_nil hns
  refine Stretch.sorted_eq ((List.perm_ext_iff_of_nodup (nodup_moved hns hv h)
    (hdiv.nodup_stretchesFrom hne 0)).mpr fun s => ?_) (hdiv.pairwise_stretchesFrom hne 0)
  rw [mem_stretches_moved hns hv h, hdiv.mem_stretches (separate_movable hns)]

/-- Where the searches find nothing there is nothing to move. -/
theorem free_of_moved (h : moved v t = []) (k : Kind) : Free (k.Word p v) t := by
  rintro w hw ⟨a, b, ht⟩
  obtain ⟨m, hm, -⟩ := (Kind.mem_found hv hns k t).mpr
    ⟨a, b, hw, by rw [← ht, List.append_assoc], rfl⟩
  have hmem := mem_moved.mpr ⟨k, hm⟩
  rw [h] at hmem
  cases hmem

end

end Wikitext.Metadata
