import Wikitext.Proofs.Category.Canonical
import Wikitext.Proofs.Metadata.Kinds
import Wikitext.Proofs.Pattern.Preference

/-!
# The default sort key

A default sort key is found under any of its names, and read without the white space around it
(`read_key`). Once all of them are written the same way, the two searches for it agree (`Sorted`).
What is done then keeps them as they are: a sort key that a category link loses stands in none of
them, and the one that is added is found again, if it can be read back.
-/

namespace Wikitext.Metadata

open Pattern Category

-- -----------------------------------------------------------------------------------------
-- Default sort keys
-- -----------------------------------------------------------------------------------------

/-- A template for the default sort key up to the white space in front of the key. -/
def keyFront : Pattern :=
  (lit "\x7b\x7b" ++ blanks ++
    (lit "DEFAULTSORT" ++ opt (lit "KEY") <|> lit "DEFAULTCATEGORYSORT") ++ blanks ++
    oneOf ":|").caseless

def keyText : Pattern := group 1 (manyLazy (noneOf "\x7b\x7d"))

theorem keyPattern_eq : keyPattern = keyFront ++ blanks ++ keyText ++ blanks ++ lit "\x7d\x7d" := by
  have hclose : (lit "\x7d\x7d").caseless = lit "\x7d\x7d" := caseless_ofText (by decide)
  have htext : (group 1 (manyLazy (noneOf "\x7b\x7d"))).caseless = keyText :=
    congrArg (fun p => group 1 (manyLazy p)) (caseless_noneOf (by decide))
  rw [keyPattern, caseless_append, caseless_append, caseless_append, caseless_append, caseless_blanks,
    hclose, htext]
  rfl

/-- There are no braces. -/
def Braceless (x : Text) : Prop := '{' ∉ x ∧ '}' ∉ x

instance (x : Text) : Decidable (Braceless x) := inferInstanceAs (Decidable (_ ∧ _))

theorem braceless_iff : (∀ c ∈ x, (!"\x7b\x7d".toList.contains c) = true) ↔ Braceless x := by
  constructor
  · exact fun h => ⟨fun hm => absurd (h _ hm) (by decide), fun hm => absurd (h _ hm) (by decide)⟩
  · intro h c hc
    by_contra hno
    rw [Bool.not_eq_true, Bool.not_eq_false', List.contains_iff_mem] at hno
    rcases List.mem_pair.mp hno with rfl | rfl
    · exact h.1 hc
    · exact h.2 hc

theorem Braceless.append (hx : Braceless x) (hy : Braceless y) : Braceless (x ++ y) :=
  ⟨by simp [hx.1, hy.1], by simp [hx.2, hy.2]⟩

theorem Braceless.subset (hy : Braceless y) (h : x ⊆ y) : Braceless x :=
  ⟨fun hm => hy.1 (h hm), fun hm => hy.2 (h hm)⟩

theorem braceless_of_blank (hb : Blank b) : Braceless b :=
  ⟨hb.not_mem (by decide), hb.not_mem (by decide)⟩

/-- A front ends with its first colon or pipe, and has no brackets. -/
structure Front (f : Text) : Prop where
  words : keyFront.Words f
  ends : ∃ x c, f = x ++ [c] ∧ (∀ d ∈ x, d ∉ ":|".toList) ∧ c ∈ ":|".toList
  bracket : ']' ∉ f

theorem front_of_forms (h : keyFront.Forms f gs) : Front f ∧ gs = [] := by
  have hgs : gs = [] := h.groups_eq_nil rfl
  have havoids : keyFront.avoids [']'] = true := by decide
  refine ⟨⟨⟨gs, h⟩, ?_, fun hm => h.avoids havoids _ hm (List.mem_singleton_self _)⟩, hgs⟩
  obtain ⟨x, s, _, _, rfl, -, hx, hs⟩ := (forms_append rfl rfl).mp h
  have hs' : (oneOf ":|").Forms s _ := (caseless_oneOf (s := ":|") (by decide)) ▸ hs
  obtain ⟨c, hc, rfl, -⟩ := forms_char.mp hs'
  exact ⟨x, c, rfl, fun d hd => hx.avoids (by decide) d hd, List.contains_iff_mem.mp hc⟩

theorem Front.unique (h : Front f) (h' : Front f') (he : f ++ r = f' ++ r') : f = f' := by
  obtain ⟨x, c, rfl, hx, hc⟩ := h.ends
  obtain ⟨x', c', rfl, hx', hc'⟩ := h'.ends
  have hends : ∀ {x : Text} {c : Char} (r : Text), (∀ d ∈ x, d ∉ ":|".toList) → c ∈ ":|".toList →
      (x ++ c :: r).takeWhile (fun d => !":|".toList.contains d) = x := by
    intro x c r hx hc
    refine Text.takeWhile_append_stop (fun d hd => by simpa using hx d hd) fun d hd => ?_
    obtain rfl : c = d := by simpa using hd
    rwa [Bool.not_eq_false', List.contains_iff_mem]
  simp only [List.append_assoc, List.singleton_append] at he
  have hxx := congrArg (List.takeWhile fun d => !":|".toList.contains d) he
  rw [hends r hx hc, hends r' hx' hc'] at hxx
  subst hxx
  rw [(List.cons.inj (List.append_cancel_left he)).1]

theorem words_keyPattern :
    keyPattern.Words w ↔ ∃ f k, Front f ∧ Braceless k ∧ w = f ++ (k ++ "\x7d\x7d".toList) := by
  rw [keyPattern_eq]
  constructor
  · rintro ⟨gs, h⟩
    obtain ⟨_, _, _, _, rfl, -, h₄, hr₅⟩ := (forms_append rfl rfl).mp h
    obtain ⟨_, b', _, _, rfl, -, h₃, hr₄⟩ := (forms_append rfl rfl).mp h₄
    obtain ⟨_, key, _, _, rfl, -, h₂, hr₃⟩ := (forms_append rfl rfl).mp h₃
    obtain ⟨f, b, _, _, rfl, -, hr₁, hr₂⟩ := (forms_append rfl rfl).mp h₂
    obtain ⟨_, -, hrun⟩ := forms_group.mp hr₃
    have hkey := braceless_iff.mp (forms_run.mp hrun).1
    obtain ⟨rfl, -⟩ := forms_ofText.mp hr₅
    exact ⟨f, b ++ (key ++ b'), (front_of_forms hr₁).1, (braceless_of_blank (forms_run.mp hr₂).1).append
      (hkey.append (braceless_of_blank (forms_run.mp hr₄).1)), by simp only [List.append_assoc]⟩
  · rintro ⟨f, k, hf, hk, rfl⟩
    obtain ⟨gs, hgs⟩ := hf.words
    have hnil : blanks.Forms [] [] := forms_run.mpr ⟨by simp, rfl⟩
    have h₁ := (forms_append (p := keyFront) (q := blanks) rfl rfl).mpr ⟨f, [], _, _, rfl, rfl, hgs, hnil⟩
    have htext : keyText.Forms k [(1, k)] :=
      forms_group.mpr ⟨[], rfl, forms_run.mpr ⟨braceless_iff.mpr hk, rfl⟩⟩
    have h₂ := (forms_append rfl rfl).mpr ⟨_, k, _, _, rfl, rfl, h₁, htext⟩
    have h₃ := (forms_append rfl rfl).mpr ⟨_, [], _, _, rfl, rfl, h₂, hnil⟩
    have h₄ := (forms_append (q := lit "\x7d\x7d") rfl rfl).mpr ⟨_, _, _, _, rfl, rfl, h₃,
      forms_ofText.mpr ⟨rfl, rfl⟩⟩
    exact ⟨_, by simpa only [List.append_nil, List.append_assoc] using h₄⟩

-- -----------------------------------------------------------------------------------------
-- What a search reads
-- -----------------------------------------------------------------------------------------

/-- A key that can be read back. -/
structure Readable (key : Text) : Prop where
  braceless : Braceless key
  trimmed : Text.trim key = key

/-- The search prefers to leave all white space around the key out of it. -/
theorem prefers_key (hf : Front f) (hb : Blank b) (hkey : Readable key) (hb' : Blank b')
    (hnil : key = [] → b' = []) (r : Text) : keyPattern.Prefers (fun _ => True)
      (f ++ (b ++ (key ++ (b' ++ "\x7d\x7d".toList)))) r [(1, key)] := by
  have hclose : (lit "\x7d\x7d").Prefers (fun _ => True) "\x7d\x7d".toList r [] := prefers_ofText trivial
  have hbehind : blanks.Prefers ((lit "\x7d\x7d").Leads fun _ => True) b' ("\x7d\x7d".toList ++ r) [] := by
    refine prefers_many hb' (fun c hc => ?_) (hclose.leads rfl rfl)
    obtain rfl : '}' = c := by simpa using hc
    decide
  have hend : Ending ['}'] (blanks.Leads ((lit "\x7d\x7d").Leads fun _ => True)) :=
    (ending_ofText (by decide) ['}'] _).blanks
  have hsolid := Text.solid_of_trim hkey.trimmed
  have htext : keyText.Prefers (blanks.Leads ((lit "\x7d\x7d").Leads fun _ => True)) key
      (b' ++ ("\x7d\x7d".toList ++ r)) [(1, key)] := by
    refine (prefers_manyLazy (braceless_iff.mpr hkey.braceless) (fun u v huv hv => ?_)
      (hbehind.leads rfl rfl)).group 1
    refine hend.not_before hv (fun c hc => hsolid.2 c ?_) (fun c hc hm => ?_) _
    · rw [huv, List.getLast?_append, hc, Option.some_or]
      rfl
    · obtain rfl := List.mem_singleton.mp hm
      exact hkey.braceless.2 (huv ▸ List.mem_append_right u hc)
  have hbefore : blanks.Prefers (keyText.Leads (blanks.Leads ((lit "\x7d\x7d").Leads fun _ => True))) b
      (key ++ (b' ++ ("\x7d\x7d".toList ++ r))) [] := by
    refine prefers_many hb (fun c hc => ?_) (htext.leads rfl rfl)
    cases key with
    | nil =>
      rw [hnil rfl] at hc
      obtain rfl : '}' = c := by simpa using hc
      decide
    | cons d key =>
      exact hsolid.1 c (by simpa using hc)
  obtain ⟨gs, hgs⟩ := hf.words
  obtain ⟨-, rfl⟩ := front_of_forms hgs
  have hleads := hbefore.leads rfl rfl
  have hfront : keyFront.Prefers (blanks.Leads
      (keyText.Leads (blanks.Leads ((lit "\x7d\x7d").Leads fun _ => True)))) f
      (b ++ (key ++ (b' ++ ("\x7d\x7d".toList ++ r)))) [] := by
    refine prefers_of_unique rfl rfl hgs hleads fun w' r' gs' heq hw' _ => ?_
    obtain ⟨hf', hgs'⟩ := front_of_forms hw'
    exact ⟨(hf.unique hf' heq).symm, hgs'⟩
  have hall := (((hfront.append rfl rfl rfl hbefore).append rfl rfl rfl htext).append rfl rfl rfl
    hbehind).append rfl rfl rfl hclose
  rw [keyPattern_eq]
  simpa only [List.append_assoc, List.append_nil, List.nil_append] using hall

/-- What the search reads is the key without the white space around it. -/
theorem read_key (hm : m ∈ defaultSortVariants.matches' t) : ∃ f k, Front f ∧ Braceless k ∧
    m.text = f ++ (k ++ "\x7d\x7d".toList) ∧ m.group 1 = Text.trim k := by
  have hmatch : m ∈ keyPattern.compile.matches' t := hm
  obtain ⟨f, k, hf, hk, htext⟩ :=
    words_keyPattern.mp ⟨_, reads_of_mem_matches enclosing_keyPattern.toLexical hmatch⟩
  obtain ⟨b, b', hb, hb', hk', hnil⟩ := Text.exists_trim_between k
  have htrimmed : Readable (Text.trim k) :=
    ⟨hk.subset (Text.trim_isInfix k).subset, Text.trim_trim k⟩
  have hprefers := prefers_key hf hb htrimmed hb' hnil m.after
  have hsame : f ++ (k ++ "\x7d\x7d".toList) = f ++ (b ++ (Text.trim k ++ (b' ++ "\x7d\x7d".toList))) := by
    conv_lhs => rw [hk']
    simp only [List.append_assoc]
  have hread := eq_of_prefers rfl rfl hmatch (by rw [htext, hsame]) hprefers
  refine ⟨f, k, hf, hk, htext, ?_⟩
  rw [Match.group, m.group?_eq (by decide), hread.2]
  rfl

-- -----------------------------------------------------------------------------------------
-- One spelling
-- -----------------------------------------------------------------------------------------

/-- All default sort keys in one spelling. -/
def normalised (t : Text) : Text :=
  defaultSortVariants.replaceAll (fun m => sortKeyTemplate (m.group 1)) t

/-- The default sort keys of the text, all of them in one spelling, are these. -/
structure Sorted (t : Text) (keys : List Text) : Prop where
  readable : ∀ key ∈ keys, Readable key
  divided : ∃ parts tail, Divided keyPattern.Words t parts tail ∧
    parts.map (·.2) = keys.map sortKeyTemplate

theorem front_standard : Front "\x7b\x7bDEFAULTSORT:".toList := by
  have hnil : blanks.caseless.Forms [] [] := by
    rw [caseless_blanks]
    exact forms_run.mpr ⟨by simp, rfl⟩
  have hopen : (lit "\x7b\x7b").caseless.Forms "\x7b\x7b".toList [] :=
    forms_ofText_caseless.mpr ⟨sameCaseless_self _, rfl⟩
  have hname : (lit "DEFAULTSORT" ++ opt (lit "KEY")).caseless.Forms "DEFAULTSORT".toList [] :=
    (forms_append rfl rfl).mpr ⟨"DEFAULTSORT".toList, [], [], [], by simp, rfl,
      forms_ofText_caseless.mpr ⟨sameCaseless_self _, rfl⟩, forms_opt.mpr (.inl ⟨rfl, rfl⟩)⟩
  have hsign : (oneOf ":|").caseless.Forms ":".toList [] := by
    rw [caseless_oneOf (by decide)]
    exact forms_char.mpr ⟨':', by decide, rfl, rfl⟩
  have h₁ := (forms_append rfl rfl).mpr ⟨_, _, _, _, rfl, rfl, hopen, hnil⟩
  have h₂ := (forms_append (q := (lit "DEFAULTSORT" ++ opt (lit "KEY") <|>
    lit "DEFAULTCATEGORYSORT").caseless) rfl rfl).mpr ⟨_, _, _, _, rfl, rfl, h₁, .left hname⟩
  have h₃ := (forms_append rfl rfl).mpr ⟨_, _, _, _, rfl, rfl, h₂, hnil⟩
  have h₄ := (forms_append rfl rfl).mpr ⟨_, _, _, _, rfl, rfl, h₃, hsign⟩
  have hforms : keyFront.Forms "\x7b\x7bDEFAULTSORT:".toList [] := h₄
  exact (front_of_forms hforms).1

theorem sortKeyTemplate_eq (key : Text) :
    sortKeyTemplate key = "\x7b\x7bDEFAULTSORT:".toList ++ (key ++ "\x7d\x7d".toList) :=
  List.append_assoc _ _ _

theorem words_sortKeyTemplate (hkey : Braceless key) : keyPattern.Words (sortKeyTemplate key) :=
  words_keyPattern.mpr ⟨_, key, front_standard, hkey, sortKeyTemplate_eq key⟩

theorem sortKeyTemplate_injective : Function.Injective sortKeyTemplate := by
  intro key key' h
  exact List.append_cancel_left (List.append_cancel_right h)

theorem exists_sorted (t : Text) : ∃ keys, Sorted (normalised t) keys := by
  have henc := enclosing_keyPattern
  have hread : ∀ m ∈ defaultSortVariants.matches' t, Readable (m.group 1) := by
    intro m hm
    obtain ⟨f, k, -, hk, -, hgroup⟩ := read_key hm
    rw [hgroup]
    exact ⟨hk.subset (Text.trim_isInfix k).subset, Text.trim_trim k⟩
  obtain ⟨htexts, -⟩ := matches_replaceAll (t := t) henc.toLexical henc.separate
    (f := fun m => sortKeyTemplate (m.group 1)) fun m hm => words_sortKeyTemplate (hread m hm).braceless
  obtain ⟨parts, tail, hdiv⟩ := Divided.exists_parts henc.toLexical.ne_nil (normalised t)
  have hparts := texts_matches henc.toLexical henc.separate hdiv
  refine ⟨(defaultSortVariants.matches' t).map (·.group 1), ?_, parts, tail, hdiv, ?_⟩
  · simpa using hread
  · rw [← hparts, List.map_map]
    exact htexts

namespace Sorted

theorem normalised_eq (h : Sorted t keys) : normalised t = t := by
  obtain ⟨hread, parts, tail, hdiv, hparts⟩ := h
  have henc := enclosing_keyPattern
  have htexts := texts_matches henc.toLexical henc.separate hdiv
  refine replaceAll_eq_self henc.toLexical fun m hm => ?_
  have hmem : m.text ∈ keys.map sortKeyTemplate := by
    rw [← hparts, ← htexts]
    exact List.mem_map_of_mem hm
  obtain ⟨key, hkey, htext⟩ := List.mem_map.mp hmem
  obtain ⟨f, k, hf, -, htext', hgroup⟩ := read_key hm
  rw [sortKeyTemplate_eq, htext'] at htext
  obtain rfl := front_standard.unique hf htext
  obtain rfl := List.append_cancel_right (List.append_cancel_left htext)
  rw [hgroup, (hread key hkey).trimmed, htext', sortKeyTemplate_eq]

end Sorted

def sortPattern : Pattern := lit "\x7b\x7bDEFAULTSORT:" ++ group 1 (many (noneOf "\x7b\x7d")) ++ lit "\x7d\x7d"

theorem forms_sortPattern :
    sortPattern.Forms w gs ↔ ∃ key, Braceless key ∧ gs = [(1, key)] ∧ w = sortKeyTemplate key := by
  rw [sortPattern, forms_append rfl rfl]
  constructor
  · rintro ⟨_, _, _, _, rfl, rfl, h₁, hr₂⟩
    obtain ⟨_, key, _, _, rfl, rfl, hr₀, hr₁⟩ := (forms_append rfl rfl).mp h₁
    obtain ⟨rfl, rfl⟩ := forms_ofText.mp hr₀
    obtain ⟨_, rfl, hrun⟩ := forms_group.mp hr₁
    obtain ⟨hkey, rfl⟩ := forms_run.mp hrun
    obtain ⟨rfl, rfl⟩ := forms_ofText.mp hr₂
    exact ⟨key, braceless_iff.mp hkey, rfl, rfl⟩
  · rintro ⟨key, hkey, rfl, rfl⟩
    refine ⟨_, _, [(1, key)], [], rfl, rfl, ?_, forms_ofText.mpr ⟨rfl, rfl⟩⟩
    exact (forms_append rfl rfl).mpr ⟨_, key, [], _, rfl, rfl, forms_ofText.mpr ⟨rfl, rfl⟩,
      forms_group.mpr ⟨[], rfl, forms_run.mpr ⟨braceless_iff.mpr hkey, rfl⟩⟩⟩

theorem words_keyPattern_of_sortPattern (w : Text) (h : sortPattern.Words w) : keyPattern.Words w := by
  obtain ⟨gs, h⟩ := h
  obtain ⟨key, hkey, -, rfl⟩ := forms_sortPattern.mp h
  exact words_sortKeyTemplate hkey

/-- The search for the one spelling finds them all. -/
theorem Sorted.keys_eq (h : Sorted t keys) : (defaultSort.matches' t).map (·.group 1) = keys := by
  obtain ⟨hread, parts, tail, hdiv, hparts⟩ := h
  have hlexical : sortPattern.Lexical := ⟨rfl, rfl, rfl⟩
  have hsep : Separate sortPattern.Words := fun hw hw' => enclosing_keyPattern.separate
    (words_keyPattern_of_sortPattern _ hw) (words_keyPattern_of_sortPattern _ hw')
  have hall : ∀ part ∈ parts, sortPattern.Words part.2 := by
    intro part hpart
    have hmem : part.2 ∈ keys.map sortKeyTemplate := hparts ▸ List.mem_map_of_mem hpart
    obtain ⟨key, hkey, htext⟩ := List.mem_map.mp hmem
    exact ⟨_, forms_sortPattern.mpr ⟨key, (hread key hkey).braceless, rfl, htext.symm⟩⟩
  have htexts := texts_matches hlexical hsep (hdiv.restrict words_keyPattern_of_sortPattern hall)
  have hgroups : ∀ m ∈ defaultSort.matches' t, sortKeyTemplate (m.group 1) = m.text := by
    intro m hm
    obtain ⟨key, -, hgs, htext⟩ := forms_sortPattern.mp (reads_of_mem_matches hlexical hm)
    rw [htext, Match.group, m.group?_eq (by decide), hgs]
    rfl
  refine sortKeyTemplate_injective.list_map ?_
  rw [List.map_map, ← hparts, ← htexts]
  exact List.map_congr_left hgroups

-- -----------------------------------------------------------------------------------------
-- Keys that links lose
-- -----------------------------------------------------------------------------------------

/-- A default sort key with a bracket has it behind its front, where anything without braces may
stand. -/
theorem words_insert (h : keyPattern.Words (u ++ (']' :: v))) (hq : Braceless q) :
    keyPattern.Words (u ++ (q ++ (']' :: v))) := by
  obtain ⟨f, k, hf, hk, heq⟩ := words_keyPattern.mp h
  obtain ⟨u, rfl⟩ := exists_append_of_not_mem hf.bracket heq.symm
  rw [List.append_assoc] at heq
  rcases List.append_eq_append_iff.mp (List.append_cancel_left heq) with ⟨k', rfl, hv⟩ | ⟨k', -, hend⟩
  · cases k' with
    | nil => simp at hv
    | cons c k' =>
      obtain ⟨rfl, rfl⟩ := List.cons.inj hv
      refine words_keyPattern.mpr ⟨f, u ++ (q ++ (']' :: k')), hf, ?_, by simp⟩
      exact (hk.subset (List.subset_append_left u _)).append
        (hq.append (hk.subset (List.subset_append_right u _)))
  · have hmem : ']' ∈ "\x7d\x7d".toList := hend ▸ List.mem_append_right k' List.mem_cons_self
    exact absurd hmem (by decide)

/-- No default sort key begins at a bracket. -/
theorem exists_behind_bracket (hw : keyPattern.Words w) (h : ']' :: b = k ++ (w ++ r)) :
    ∃ k', k = ']' :: k' ∧ b = k' ++ (w ++ r) := by
  cases k with
  | cons c k' =>
    obtain ⟨rfl, rfl⟩ := List.cons.inj h
    exact ⟨k', rfl, rfl⟩
  | nil =>
    obtain ⟨-, -⟩ := enclosing_keyPattern.enclosed w hw
    simp at h

/-- No default sort key comes into being where something without braces is taken away in front of a
bracket. -/
theorem free_of_free_insert (hq : Braceless q) (h : Free keyPattern.Words (a ++ (q ++ (']' :: b)))) :
    Free keyPattern.Words (a ++ (']' :: b)) := by
  rintro w hw ⟨u, r, heq⟩
  rw [List.append_assoc] at heq
  rcases List.append_eq_append_iff.mp heq with ⟨k, rfl, hk⟩ | ⟨k, rfl, hk⟩
  · rcases List.append_eq_append_iff.mp hk with ⟨k', rfl, -⟩ | ⟨k', rfl, hk'⟩
    · exact h w hw ⟨u, k' ++ (q ++ (']' :: b)), by simp⟩
    · cases k' with
      | nil => exact h k (by simpa using hw) ⟨u, q ++ (']' :: b), by simp⟩
      | cons c k' =>
        obtain ⟨rfl, rfl⟩ := List.cons.inj hk'
        exact h _ (words_insert hw hq) ⟨u, r, by simp⟩
  · obtain ⟨k, rfl, rfl⟩ := exists_behind_bracket hw hk
    exact h w hw ⟨a ++ (q ++ (']' :: k)), r, by simp⟩

/-- By induction on the division: what is taken away stands in a gap. -/
theorem exists_divided_of_insert (hq : Braceless q) (h : Divided keyPattern.Words t parts tail)
    (ht : t = a ++ (q ++ (']' :: b))) (hparts : ∀ part ∈ parts, ']' ∉ part.2) :
    ∃ parts' tail', Divided keyPattern.Words (a ++ (']' :: b)) parts' tail' ∧
      parts'.map (·.2) = parts.map (·.2) := by
  induction h generalizing a with
  | nil hu =>
    subst ht
    exact ⟨[], _, .nil (free_of_free_insert hq hu), rfl⟩
  | @cons u w r parts tail hu hw hr ih =>
    rw [List.forall_mem_cons] at hparts
    have ht' : u ++ (w ++ r) = (a ++ q) ++ (']' :: b) := by rw [ht, List.append_assoc]
    rcases List.append_eq_append_iff.mp ht' with ⟨k, hk, hrest⟩ | ⟨k, rfl, hrest⟩
    · obtain ⟨k, rfl⟩ := exists_append_of_not_mem hparts.1 hrest
      obtain ⟨z, rfl, rfl⟩ : ∃ z, a = u ++ (w ++ z) ∧ k = z ++ q := by
        rw [← List.append_assoc] at hk
        rcases List.append_eq_append_iff.mp hk with ⟨z, hz, rfl⟩ | ⟨z, rfl, rfl⟩
        · obtain rfl : z = [] := by
            by_contra hne
            obtain ⟨y, rfl⟩ := (enclosing_keyPattern.enclosed w hw).suffix
            have hlast := congrArg List.getLast? hz
            rw [List.getLast?_append_of_ne_nil a hne] at hlast
            have hbrace : z.getLast? = some '}' := by simpa using hlast.symm
            exact hq.2 (List.mem_append_left k (List.mem_of_getLast? hbrace))
          exact ⟨[], by simpa using hz.symm, by simp⟩
        · exact ⟨z, List.append_assoc u w z, rfl⟩
      have hr : r = z ++ (q ++ (']' :: b)) := by simpa using hrest
      obtain ⟨parts', tail', hdiv, hsame⟩ := ih hr hparts.2
      refine ⟨(u, w) :: parts', tail', ?_, by simp [hsame]⟩
      have hall := Divided.cons hu hw hdiv
      simpa only [List.append_assoc] using hall
    · obtain ⟨k, rfl, rfl⟩ := exists_behind_bracket hw hrest
      rw [List.append_assoc] at hu
      refine ⟨(a ++ (']' :: k), w) :: parts, tail, ?_, rfl⟩
      have hall := Divided.cons (free_of_free_insert hq hu) hw hr
      simpa only [List.append_assoc, List.cons_append] using hall

theorem Sorted.drop (h : Sorted (a ++ (q ++ (']' :: b))) keys) (hq : Braceless q)
    (hkeys : ∀ key ∈ keys, ']' ∉ key) : Sorted (a ++ (']' :: b)) keys := by
  obtain ⟨hread, parts, tail, hdiv, hparts⟩ := h
  obtain ⟨parts', tail', hdiv', hsame⟩ := exists_divided_of_insert hq hdiv rfl fun part hpart => by
    have hmem : part.2 ∈ keys.map sortKeyTemplate := hparts ▸ List.mem_map_of_mem hpart
    obtain ⟨key, hkey, htext⟩ := List.mem_map.mp hmem
    intro hno
    rw [← htext] at hno
    rcases List.mem_append.mp hno with hno | hno
    · rcases List.mem_append.mp hno with hno | hno
      · exact absurd hno (by decide)
      · exact hkeys key hkey hno
    · exact absurd hno (by decide)
  exact ⟨hread, parts', tail', hdiv', hsame.trans hparts⟩

/-- The link without a key of its own that says the same as the default one. -/
def shortened (key : Text) (m : Match) : Text :=
  if (m.group? 2).any (fun own => Text.trim (own.drop 1) == Text.trim key) then
    Text.trimEnd (m.text.take (m.text.length - (m.group 2).length - 2)) ++ "]]".toList
  else m.text

theorem dropKeys_eq (v : Vocabulary) (key t : Text) :
    dropKeys v key t = v.category.replaceAll (shortened key) t := by
  refine congrArg (fun f => v.category.replaceAll f t) (funext fun m => ?_)
  rw [shortened, Match.group]
  cases m.group? 2 with
  | none => rfl
  | some own => simp

/-- A link whose key, if it has one, is not the default one. -/
def Lasting (ns key w : Text) : Prop :=
  ∃ x k, Link ns w x k ∧ ∀ own, k = '|' :: own → Text.trim own ≠ Text.trim key

theorem exists_front (h : Link ns w x k) : ∃ f, (∀ c ∈ f.getLast?, Chars.isBlank c = false) ∧
    w = f ++ (x ++ (k ++ "]]".toList)) ∧
      ∀ x' k', Category.Nameable x' → KeyPart k' → Link ns (f ++ (x' ++ (k' ++ "]]".toList))) x' k' := by
  obtain ⟨hg, hn, hg', -, -⟩ := h
  rename_i g n g'
  refine ⟨"[[".toList ++ (g ++ (n ++ (g' ++ [':']))), fun c hc => ?_, by simp, fun x' k' hx' hk' => ?_⟩
  · obtain rfl : ':' = c := by simpa [List.getLast?_append, List.getLast?_cons] using hc
    decide
  · have hlink := Link.intro hg hn hg' hx' hk'
    simpa only [List.append_assoc, List.cons_append, List.nil_append] using hlink

section
variable {p : Profile} {v : Vocabulary} (hv : Vocabulary.ofProfile p = .ok v)
  (hns : Category.Nameable p.categoryNamespace)
include hv hns

theorem repeats_iff (hm : m ∈ v.category.matches' t) (hlink : Link p.categoryNamespace m.text x k) :
    (m.group? 2).any (fun own => Text.trim (own.drop 1) == Text.trim key) = true ↔
      ∃ own, k = '|' :: own ∧ Text.trim own = Text.trim key := by
  obtain ⟨x', k', hlink', -, hgroup⟩ := read_match hv hns hm
  obtain ⟨rfl, rfl⟩ := hlink.unique hlink'
  rw [hgroup]
  rcases hlink.keyPart.head with rfl | ⟨own, rfl⟩
  · simp
  · simp

theorem shortened_of_lasting (hm : m ∈ v.category.matches' t)
    (h : Lasting p.categoryNamespace key m.text) : shortened key m = m.text := by
  obtain ⟨x, k, hlink, hother⟩ := h
  refine if_neg fun hrepeats => ?_
  obtain ⟨own, hk, hsame⟩ := (repeats_iff hv hns hm hlink).mp hrepeats
  exact hother own hk hsame

/-- What is written does not lose anything a second time. It is what the link was, or lacks something
in front of the closing brackets that has no braces if the default key has none. -/
theorem lasting_shortened (key : Text) (hm : m ∈ v.category.matches' t) :
    Lasting p.categoryNamespace key (shortened key m) ∧ (shortened key m = m.text ∨
      ∃ base q, m.text = base ++ (q ++ "]]".toList) ∧ shortened key m = base ++ "]]".toList ∧
        (Braceless key → Braceless q)) := by
  obtain ⟨x, k, hlink, -, hgroup⟩ := read_match hv hns hm
  by_cases hrepeats : (m.group? 2).any (fun own => Text.trim (own.drop 1) == Text.trim key) = true
  · obtain ⟨own, rfl, hsame⟩ := (repeats_iff hv hns hm hlink).mp hrepeats
    obtain ⟨f, hsolid, htext, hrelink⟩ := exists_front hlink
    obtain ⟨b, hx, hb⟩ := Text.trimEnd_append x
    have hkey : m.group 2 = '|' :: own := by
      rw [Match.group, hgroup]
      rfl
    have htake : m.text.take (m.text.length - (m.group 2).length - 2) = f ++ x := by
      have hlen : m.text.length - (m.group 2).length - 2 = (f ++ x).length := by
        rw [hkey, htext]
        simp only [List.length_append, List.length_cons]
        change _ + (_ + (_ + 1 + 2)) - _ - 2 = _
        omega
      rw [hlen, htext, ← List.append_assoc, List.take_left]
    have hwritten : shortened key m = f ++ Text.trimEnd x ++ "]]".toList := by
      rw [shortened, if_pos hrepeats, htake, Text.trimEnd_solid_append hsolid]
    have hx' : Category.Nameable (Text.trimEnd x) := fun c hc =>
      hlink.nameable c ((Text.trimEnd_isPrefix x).subset hc)
    refine ⟨⟨Text.trimEnd x, [], ?_, by simp⟩, .inr ⟨f ++ Text.trimEnd x, b ++ ('|' :: own), ?_, hwritten, ?_⟩⟩
    · rw [hwritten, List.append_assoc]
      exact hrelink _ [] hx' .absent
    · rw [htext]
      conv_lhs => rw [hx]
      simp only [List.append_assoc]
    · intro hkeyless
      have hown : ∀ c, Chars.isBlank c = false → c ∈ own → c ∈ key := fun c hc hmem =>
        (Text.trim_isInfix key).subset (hsame ▸ Text.mem_trim hc hmem)
      refine (braceless_of_blank hb).append ⟨fun hmem => ?_, fun hmem => ?_⟩
      · rcases List.mem_cons.mp hmem with hmem | hmem
        · cases hmem
        · exact hkeyless.1 (hown _ (by decide) hmem)
      · rcases List.mem_cons.mp hmem with hmem | hmem
        · cases hmem
        · exact hkeyless.2 (hown _ (by decide) hmem)
  · have hsame : shortened key m = m.text := if_neg hrepeats
    rw [hsame]
    exact ⟨⟨x, k, hlink, fun own hk hsame =>
      hrepeats ((repeats_iff hv hns hm hlink).mpr ⟨own, hk, hsame⟩)⟩, .inl rfl⟩

theorem dropKeys_dropKeys (key t : Text) : dropKeys v key (dropKeys v key t) = dropKeys v key t := by
  have henc := enclosing_linkPattern hns
  have hlasting := fun m hm => (lasting_shortened hv hns (t := t) (m := m) key hm).1
  have hcategory := category_eq hv
  rw [hcategory] at hlasting
  obtain ⟨htexts, -⟩ := matches_replaceAll (t := t) henc.toLexical henc.separate
    (f := shortened key) fun m hm => by
      obtain ⟨x, k, hlink, -⟩ := hlasting m hm
      exact words_linkPattern.mpr ⟨x, k, hlink⟩
  rw [← hcategory, ← dropKeys_eq] at htexts
  rw [dropKeys_eq v key (dropKeys v key t)]
  conv_lhs => rw [hcategory]
  refine replaceAll_eq_self henc.toLexical fun m hm => ?_
  rw [← hcategory] at hm
  have hmem : m.text ∈ (v.category.matches' t).map (shortened key) := htexts ▸ List.mem_map_of_mem hm
  obtain ⟨m₀, hm₀, htext⟩ := List.mem_map.mp hmem
  exact shortened_of_lasting hv hns hm (htext ▸ (lasting_shortened hv hns key hm₀).1)

/-- A link has no key with a bracket. -/
theorem dropKeys_of_bracket (hkey : ']' ∈ key) (t : Text) : dropKeys v key t = t := by
  rw [dropKeys_eq, category_eq hv]
  refine replaceAll_eq_self (enclosing_linkPattern hns).toLexical fun m hm => ?_
  rw [← category_eq hv] at hm
  obtain ⟨x, k, hlink, -, -⟩ := read_match hv hns hm
  refine shortened_of_lasting hv hns hm ⟨x, k, hlink, fun own hk hsame => ?_⟩
  have hmem : ']' ∈ own :=
    (Text.trim_isInfix own).subset (hsame ▸ Text.mem_trim (by decide) hkey)
  have hpart := hlink.keyPart
  rw [hk] at hpart
  cases hpart with
  | present hown => exact absurd (hown _ hmem) (by decide)

end

theorem Sorted.shorten {f : Match → Text} {parts : List (Text × Match)}
    (h : Sorted (a ++ (parts.flatMap (fun part => part.1 ++ part.2.text) ++ tail)) keys)
    (hkeys : ∀ key ∈ keys, ']' ∉ key)
    (hf : ∀ part ∈ parts, f part.2 = part.2.text ∨ ∃ base q, part.2.text = base ++ (q ++ "]]".toList) ∧
      f part.2 = base ++ "]]".toList ∧ Braceless q) :
    Sorted (a ++ (parts.flatMap (fun part => part.1 ++ f part.2) ++ tail)) keys := by
  induction parts generalizing a with
  | nil => exact h
  | cons part parts ih =>
    rw [List.forall_mem_cons] at hf
    rcases hf.1 with hsame | ⟨base, q, htext, hwritten, hq⟩
    · have hrest := ih (a := a ++ (part.1 ++ part.2.text)) (by simpa using h) hf.2
      simpa [hsame] using hrest
    · have hbefore : Sorted ((a ++ (part.1 ++ base)) ++ (q ++ (']' :: (']' ::
          (parts.flatMap (fun part => part.1 ++ part.2.text) ++ tail))))) keys := by
        simpa [htext] using h
      have hrest := ih (a := a ++ (part.1 ++ (base ++ "]]".toList)))
        (by simpa using hbefore.drop hq hkeys) hf.2
      simpa [hwritten] using hrest

/-- A default sort key that is written on a line of its own is found there. -/
theorem Sorted.insert (h : Sorted (a ++ b) []) (hkey : Readable key) :
    Sorted (a ++ (sortKeyTemplate key ++ ('\n' :: b))) [key] := by
  obtain ⟨-, parts, tail, hdiv, hparts⟩ := h
  obtain rfl := List.map_eq_nil_iff.mp hparts
  have henc := enclosing_keyPattern
  have hfree : Free keyPattern.Words (a ++ b) := hdiv.text_eq ▸ hdiv.tail_free
  have hb : Free keyPattern.Words ('\n' :: b) := by
    rintro w hw ⟨u, r, heq⟩
    cases u with
    | nil =>
      obtain ⟨-, -⟩ := henc.enclosed w hw
      simp at heq
    | cons c u =>
      obtain ⟨-, rfl⟩ := List.cons.inj heq
      exact hfree w hw ⟨a ++ u, r, by simp⟩
  refine ⟨by simpa using hkey, [(a, sortKeyTemplate key)], '\n' :: b, ?_, rfl⟩
  exact .cons (hfree.within (List.prefix_append a b).isInfix) (words_sortKeyTemplate hkey.braceless)
    (.nil hb)

section
variable {p : Profile} {v : Vocabulary} (hv : Vocabulary.ofProfile p = .ok v)
  (hns : Category.Nameable p.categoryNamespace)
include hv hns

theorem Sorted.dropKeys (h : Sorted t [key]) : Sorted (dropKeys v key t) [key] := by
  by_cases hbracket : ']' ∈ key
  · rwa [dropKeys_of_bracket hv hns hbracket]
  · have hkey := (h.readable key List.mem_cons_self).braceless
    obtain ⟨parts, tail, hout, hpieces⟩ := exists_outline (enclosing_linkPattern hns).toLexical t
    have htext := hout.divided.text_eq
    rw [Outlined.texts, List.flatMap_map] at htext
    have hmatches := matches_of_pieces hpieces
    rw [← category_eq hv] at hpieces hmatches
    rw [dropKeys_eq, replaceAll_of_pieces hpieces]
    rw [htext] at h
    refine Sorted.shorten (a := []) h (by simpa using hbracket) fun part hpart => ?_
    have hm : part.2 ∈ v.category.matches' t := hmatches ▸ List.mem_map_of_mem hpart
    obtain ⟨-, hsame | ⟨base, q, htext, hwritten, hq⟩⟩ := lasting_shortened hv hns key hm
    · exact .inl hsame
    · exact .inr ⟨base, q, htext, hwritten, hq hkey⟩

end

-- -----------------------------------------------------------------------------------------
-- Putting the default sort key right
-- -----------------------------------------------------------------------------------------

variable {v : Vocabulary}

theorem fixDefaultSort_normalised (h : Sorted (normalised t) keys) :
    fixDefaultSort v title restricted (normalised t) = fixDefaultSort v title restricted t := by
  have hnormalised := h.normalised_eq
  simp only [normalised] at hnormalised
  simp only [fixDefaultSort, normalised, hnormalised]

section
variable (hnormalised : normalised t = t)
include hnormalised

theorem fixDefaultSort_one (hkeys : (defaultSort.matches' t).map (·.group 1) = [key]) :
    fixDefaultSort v title restricted t = ⟨dropKeys v key t, false⟩ := by
  rw [normalised] at hnormalised
  simp only [fixDefaultSort, hnormalised, hkeys]

theorem fixDefaultSort_many (hkeys : (defaultSort.matches' t).map (·.group 1) = key :: key' :: keys) :
    fixDefaultSort v title restricted t = ⟨t, false⟩ := by
  rw [normalised] at hnormalised
  simp only [fixDefaultSort, hnormalised, hkeys]

section
variable (hkeys : (defaultSort.matches' t).map (·.group 1) = [])
include hkeys

theorem fixDefaultSort_none (hno : keyToAdd? v title restricted t = none) :
    fixDefaultSort v title restricted t = ⟨t, false⟩ := by
  rw [normalised] at hnormalised
  simp only [fixDefaultSort, hnormalised, hkeys, hno]

theorem fixDefaultSort_some (hkey : keyToAdd? v title restricted t = some key) :
    ∃ a b, t = a ++ b ∧ fixDefaultSort v title restricted t =
      ⟨dropKeys v key (a ++ (sortKeyTemplate key ++ ('\n' :: b))), true⟩ := by
  rw [normalised] at hnormalised
  simp only [fixDefaultSort, hnormalised, hkeys, hkey, List.append_assoc]
  split
  · exact ⟨_, _, (List.take_append_drop _ t).symm, rfl⟩
  · exact ⟨_, _, (List.take_append_drop _ t).symm, rfl⟩

end

end

section
variable {p : Profile} (hv : Vocabulary.ofProfile p = .ok v)
  (hns : Category.Nameable p.categoryNamespace)
include hv hns

/-- What is left has its default sort key put right. -/
theorem fixDefaultSort_dropKeys (h : Sorted t [key]) :
    fixDefaultSort v title restricted (dropKeys v key t) = ⟨dropKeys v key t, false⟩ := by
  have hdropped := h.dropKeys hv hns
  rw [fixDefaultSort_one hdropped.normalised_eq hdropped.keys_eq, dropKeys_dropKeys hv hns]

/-- Doing it again changes nothing and adds nothing, unless a key was added that cannot be read back:
one that has braces, or white space at its ends. -/
theorem fixDefaultSort_settles (hkey : (fixDefaultSort v title restricted t).added = true →
      ∀ key ∈ keyToAdd? v title restricted (normalised t), Readable key) :
    fixDefaultSort v title restricted (fixDefaultSort v title restricted t).text =
      ⟨(fixDefaultSort v title restricted t).text, false⟩ := by
  obtain ⟨keys, h⟩ := exists_sorted t
  rw [← fixDefaultSort_normalised h] at hkey ⊢
  generalize normalised t = t at h hkey ⊢
  have hnormalised := h.normalised_eq
  have hkeys := h.keys_eq
  match keys with
  | [] =>
    cases hadd : keyToAdd? v title restricted t with
    | none =>
      have hfix := fixDefaultSort_none hnormalised hkeys hadd
      rw [hfix]
      exact hfix
    | some key =>
      obtain ⟨a, b, rfl, hfix⟩ := fixDefaultSort_some hnormalised hkeys hadd
      have hreadable : Readable key := hkey (by rw [hfix]) key hadd
      rw [hfix]
      exact fixDefaultSort_dropKeys hv hns (h.insert hreadable)
  | [key] =>
    rw [fixDefaultSort_one hnormalised hkeys]
    exact fixDefaultSort_dropKeys hv hns h
  | key :: key' :: keys =>
    have hfix : fixDefaultSort v title restricted t = ⟨t, false⟩ := fixDefaultSort_many hnormalised hkeys
    rw [hfix]
    exact hfix

end

/-- A key with braces is not seen again, and the title gets another one. -/
example : (Vocabulary.ofProfile .englishWikipedia).toOption.map (fun v =>
    let t := "[[Category:A|\x7b\x7bPAGENAME\x7d\x7d]]\n[[Category:B|\x7b\x7bPAGENAME\x7d\x7d]]".toList
    let once := fixDefaultSort v "Élan".toList false t
    (once.added, (fixDefaultSort v "Élan".toList false once.text).added)) = some (true, true) := by
  decide +kernel

end Wikitext.Metadata
