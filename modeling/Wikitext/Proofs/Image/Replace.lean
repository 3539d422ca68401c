import Wikitext.Proofs.Article.Log
import Wikitext.Proofs.Fix.WhiteSpace
import Wikitext.Proofs.Image.Link
import Wikitext.Proofs.Pattern.Context

/-!
# Images that are replaced

A mention of a file is found behind the namespace, behind an equals sign or at the start of a line.
If the names have no signs that end a name or begin one, every link to the file is a mention, and no
new name becomes part of one; so no link to the file is left (`replace_leaves_no_link`). A name with
an equals sign can stand behind a part of itself, and what is written there makes a new link
(`replace_behind_sign`).
-/

namespace Wikitext.Image

open Pattern
open Category (Gap words_gap)
open Fix (LineBegins LineEnds reads_lineStart reads_lineEnd)

-- -----------------------------------------------------------------------------------------
-- Mentions
-- -----------------------------------------------------------------------------------------

/-- What shows that a name follows, behind the character `b`. -/
inductive Start (v : Vocabulary) (b : Option Char) : Text → Prop
  | link : IsNamespace v n → Gap g → Gap g' → Start v b (n ++ (g ++ ':' :: g'))
  | parameter : Gap g → Start v b ('=' :: g)
  | line : LineBegins b → Gap g → Start v b g

/-- What shows that a name is at its end, in front of the text `r`. -/
inductive Stop (r : Text) : Text → Prop
  | sign : Gap g → d ∈ "|]\x7d\n<".toList → Stop r (g ++ [d])
  | line : Gap g → LineEnds r → Stop r g

def start (v : Vocabulary) : Pattern :=
  firstOf [fileNamespace v ++ gap ++ lit ":" ++ gap, lit "=" ++ gap, lineStart ++ gap]

def stop : Pattern := gap ++ (oneOf "|]\x7d\n<" <|> lineEnd)

def mention (v : Vocabulary) (name : Text) : Pattern :=
  group 1 (start v) ++ group 2 (namePattern name) ++ group 3 stop

/-- What a namespace and its colon are in a mention. -/
def prefixOf (v : Vocabulary) : Pattern := fileNamespace v ++ gap ++ lit ":" ++ gap

theorem simple_prefixOf (v : Vocabulary) : Simple (prefixOf v) :=
  (((simple_fileNamespace v).append simple_gap).append (simple_ofText _)).append simple_gap

theorem words_prefixOf : (prefixOf v).Words w ↔
    ∃ n g g', IsNamespace v n ∧ Gap g ∧ Gap g' ∧ w = n ++ (g ++ ':' :: g') := by
  have hgap : gap.anchorless = true := rfl
  have hcolon : (lit ":").anchorless = true := rfl
  have htext : ∀ {w}, (lit ":").Words w ↔ w = ":".toList := words_ofText
  simp only [prefixOf, words_append, anchorless_append, (simple_fileNamespace v).anchorless, hgap,
    hcolon, htext, Bool.and_self, words_gap]
  constructor
  · rintro ⟨_, g', rfl, ⟨_, _, rfl, ⟨n, g, rfl, hn, hg⟩, rfl⟩, hg'⟩
    exact ⟨n, g, g', hn, hg, hg', by simp⟩
  · rintro ⟨n, g, g', hn, hg, hg', rfl⟩
    exact ⟨_, g', by simp, ⟨_, _, rfl, ⟨n, g, rfl, hn, hg⟩, rfl⟩, hg'⟩

theorem gap_of_reads (h : gap.Reads b w r gs) : Gap w := words_gap.mp ⟨_, h.anywhere rfl none []⟩

theorem start_of_reads (h : (start v).Reads b w r gs) : Start v b w := by
  obtain ⟨p, hp, h⟩ := exists_of_firstOf h
  simp only [List.mem_cons, List.not_mem_nil, or_false] at hp
  rcases hp with rfl | rfl | rfl
  · obtain ⟨n, g, g', hn, hg, hg', rfl⟩ :=
      words_prefixOf.mp ⟨_, h.anywhere (simple_prefixOf v).anchorless none []⟩
    exact .link hn hg hg'
  · obtain ⟨_, g, rfl, hsign, hg⟩ := (words_append rfl rfl).mp ⟨_, h.anywhere rfl none []⟩
    obtain rfl := words_ofText.mp hsign
    exact .parameter (words_gap.mp hg)
  · obtain ⟨hbegin, hg⟩ := reads_seq_iff.mp h
    obtain ⟨rfl, hline⟩ := reads_lineStart hbegin
    exact .line hline (gap_of_reads hg)

theorem stop_of_reads (h : stop.Reads b w r gs) : Stop r w := by
  obtain ⟨hg, hend⟩ := reads_seq_iff.mp h
  rcases reads_alt_iff.mp hend with hsign | hline
  · obtain ⟨d, hd, rfl, -⟩ := forms_char.mp (hsign.anywhere rfl none [])
    exact .sign (gap_of_reads hg) (List.contains_iff_mem.mp hd)
  · obtain ⟨rfl, hends⟩ := reads_lineEnd hline
    rw [List.append_nil]
    exact .line (gap_of_reads hg) hends

theorem groupless_start (v : Vocabulary) : (start v).hasGroups = false :=
  Bool.or_eq_false_iff.mpr ⟨(simple_prefixOf v).groupless, rfl⟩

/-- A mention has the parts that its groups record. -/
theorem mention_of_reads (h : (mention v name).Reads b w r gs) : ∃ g₁ x g₃, w = g₁ ++ (x ++ g₃) ∧
    Start v b g₁ ∧ Spells name x ∧ Stop r g₃ ∧ gs = [(3, g₃), (2, x), (1, g₁)] := by
  obtain ⟨h₁₂, h₃⟩ := reads_seq_iff.mp h
  obtain ⟨h₁, h₂⟩ := reads_seq_iff.mp h₁₂
  cases h₁ with
  | capture h₁ =>
    cases h₂ with
    | capture h₂ =>
      cases h₃ with
      | capture h₃ =>
        obtain rfl := h₁.groups_eq_nil (groupless_start v)
        obtain rfl := h₂.groups_eq_nil (simple_namePattern name).groupless
        obtain rfl := h₃.groups_eq_nil rfl
        refine ⟨_, _, _, List.append_assoc .., start_of_reads h₁, ?_, stop_of_reads h₃, rfl⟩
        exact words_namePattern.mp ⟨_, h₂.anywhere (simple_namePattern name).anchorless _ _⟩

/-- A link to the file is a mention of it. -/
theorem reads_of_link (hn : IsNamespace v n) (hg : Gap g) (hg' : Gap g') (hx : Spells name x)
    (hg'' : Gap g'') (hd : d ∈ "|]".toList) (b : Option Char) (r : Text) :
    ∃ gs, (mention v name).Reads b (n ++ (g ++ ':' :: g') ++ x ++ (g'' ++ [d])) r gs := by
  obtain ⟨gs₁, h₁⟩ := words_prefixOf.mpr ⟨n, g, g', hn, hg, hg', rfl⟩
  obtain ⟨gs₂, h₂⟩ := words_namePattern.mpr hx
  obtain ⟨gs₃, h₃⟩ := words_gap.mpr hg''
  have hsign : ∀ d ∈ "|]".toList, "|]\x7d\n<".toList.contains d = true := by decide
  have hstart : ∀ r, (start v).Reads b (n ++ (g ++ ':' :: g')) r gs₁ := fun r =>
    (h₁.anywhere (simple_prefixOf v).anchorless b r).firstOf List.mem_cons_self
  have hstop : ∀ b, stop.Reads b (g'' ++ [d]) r ([] ++ gs₃) := fun b =>
    .seq (h₃.anywhere rfl b _) (.left (.char (hsign d hd)))
  exact ⟨_, .seq (.seq (.capture (hstart _))
      (.capture (h₂.anywhere (simple_namePattern name).anchorless _ _)))
    (.capture (hstop _))⟩

theorem nullable_spelled (h : t ≠ []) : (inOrder (t.map spelled)).nullable = false := by
  obtain ⟨c, cs, rfl⟩ := List.exists_cons_of_ne_nil h
  have hone : (spelled c).nullable = false := by
    unfold spelled
    split <;> rfl
  cases cs with
  | nil => exact hone
  | cons d cs => exact Bool.and_eq_false_iff.mpr (.inl hone)

theorem nullable_namePattern (h : plainName name ≠ []) : (namePattern name).nullable = false := by
  rw [namePattern_eq]
  unfold Title.patternWith
  split
  · rename_i hnil
    exact absurd hnil h
  · dsimp only
    split
    · exact nullable_spelled (List.cons_ne_nil _ _)
    · exact Bool.and_eq_false_iff.mpr (.inl (Bool.or_eq_false_iff.mpr
        ⟨nullable_spelled (toUpper_ne_nil _), nullable_spelled (toLower_ne_nil _)⟩))

theorem nullable_mention (h : plainName name ≠ []) : (mention v name).nullable = false :=
  Bool.and_eq_false_iff.mpr (.inl (Bool.and_eq_false_iff.mpr (.inr (nullable_namePattern h))))

theorem steady_mention (v : Vocabulary) (name : Text) : (mention v name).steady = true := by
  have hstart : (start v).steady = true :=
    Bool.and_eq_true _ _ |>.mpr ⟨(simple_prefixOf v).steady, rfl⟩
  exact Bool.and_eq_true _ _ |>.mpr ⟨Bool.and_eq_true _ _ |>.mpr
    ⟨hstart, (simple_namePattern name).steady⟩, rfl⟩

-- -----------------------------------------------------------------------------------------
-- What is replaced
-- -----------------------------------------------------------------------------------------

/-- What is written for the name. -/
def spaced (new : Text) : Text := new.map fun c => if c == '_' then ' ' else c

/-- The second text is the first one with the new name for some of the texts that are names. -/
inductive Renamed (L : Text → Prop) (new : Text) : Text → Text → Prop
  | same : Renamed L new t t
  | name : L x → Renamed L new r r' → Renamed L new (u ++ (x ++ r)) (u ++ (new ++ r'))

theorem Renamed.behind (h : Renamed L new r r') (s : Text) : Renamed L new (s ++ r) (s ++ r') := by
  cases h with
  | same => exact .same
  | @name x r r' u hx h =>
    rw [← List.append_assoc s, ← List.append_assoc s]
    exact .name hx h

/-- What is written for a mention. -/
def renamed (new : Text) (m : Match) : Text := m.group 1 ++ spaced new ++ m.group 3

theorem replace_eq (v : Vocabulary) (old new t : Text) :
    replace v old new t = (mention v old).compile.replaceAll (renamed new) t := rfl

/-- A match and what is written for it. -/
theorem parts_of_takes (new : Text) (hm : Takes (mention v old) m b w r) :
    ∃ g₁ x g₃, w = g₁ ++ (x ++ g₃) ∧
    Start v b g₁ ∧ Spells old x ∧ Stop r g₃ ∧ renamed new m = g₁ ++ (spaced new ++ g₃) := by
  obtain ⟨g₁, x, g₃, hw, hstart, hx, hstop, hgs⟩ := mention_of_reads hm.reads
  have h₁ : m.group 1 = g₁ := Match.group_eq_of_texts hgs (by decide) rfl
  have h₃ : m.group 3 = g₃ := Match.group_eq_of_texts hgs (by decide) rfl
  exact ⟨g₁, x, g₃, hw, hstart, hx, hstop, by rw [renamed, h₁, h₃, List.append_assoc]⟩

theorem renamed_of_replaces (h : Replaces (mention v old) (renamed new) b t t') :
    Renamed (Spells old) (spaced new) t t' := by
  induction h with
  | rest => exact .same
  | @hit b u w r m r' _ hm _ ih =>
    obtain ⟨g₁, x, g₃, rfl, -, hx, -, hwritten⟩ := parts_of_takes new hm
    rw [hwritten]
    have h := (Renamed.name (u := u ++ g₁) hx (ih.behind g₃))
    simpa using h

-- -----------------------------------------------------------------------------------------
-- Names without signs
-- -----------------------------------------------------------------------------------------

/-- Signs that are part of the markup around the name of a file. -/
def signs : List Char := "[]\x7b\x7d|<=:\n".toList

def Plain (t : Text) : Prop := ∀ d ∈ signs, d ∉ t

theorem plain_gap (hg : Gap g) : Plain g := by
  have hall : ∀ d ∈ signs, Category.inGap d = false := by decide
  exact fun d hd hmem => by simpa [hall d hd] using hg d hmem

theorem plain_append : Plain (t ++ u) ↔ Plain t ∧ Plain u := by
  simp only [Plain, List.mem_append, not_or, forall_and]

theorem plain_spaced (h : Plain new) : Plain (spaced new) := by
  have hall : ∀ d ∈ signs, d ≠ ' ' := by decide
  intro d hd hmem
  obtain ⟨c, hc, hcd⟩ := List.mem_map.mp hmem
  split at hcd
  · exact hall d hd hcd.symm
  · exact h d hd (hcd ▸ hc)

theorem caseless_signs : ∀ d ∈ signs, Chars.Caseless d ∧ d ≠ ' ' ∧ d ≠ '_' := by decide

theorem Spells.plain (h : Spells name x) (hname : Plain name) : Plain x := fun d hd hmem =>
  let ⟨hcaseless, hspace, hscore⟩ := caseless_signs d hd
  hname d hd (h.mem hcaseless hspace hscore hmem)

section
variable {v : Vocabulary} (hv : ∀ ns ∈ v.profile.fileNamespaces, Plain ns)
include hv

theorem IsNamespace.plain (h : IsNamespace v n) : Plain n := fun d hd hmem =>
  let ⟨ns, hns, hmem⟩ := h.mem (caseless_signs d hd).1 hmem
  hv ns hns d hd hmem

theorem Start.not_mem (h : Start v b g₁) (hd : d ∈ signs) (hcolon : d ≠ ':') (hequals : d ≠ '=') :
    d ∉ g₁ := by
  cases h with
  | link hn hg hg' =>
    simp [hn.plain hv d hd, plain_gap hg d hd, plain_gap hg' d hd, hcolon]
  | parameter hg => simp [plain_gap hg d hd, hequals]
  | line _ hg => exact plain_gap hg d hd

theorem Front.not_mem (hold : Plain old) (h : Front v old f) (hd : d ∈ signs) (hcolon : d ≠ ':')
    (hopen : d ≠ '[') : d ∉ f := by
  obtain ⟨h₁, hn, h₂, h₃, hx, h₄⟩ := h
  simp [plain_gap h₁ d hd, hn.plain hv d hd, plain_gap h₂ d hd, plain_gap h₃ d hd,
    hx.plain hold d hd, plain_gap h₄ d hd, hcolon, hopen]

end

-- -----------------------------------------------------------------------------------------
-- No link is left
-- -----------------------------------------------------------------------------------------

/-- A link to the file up to what ends the name. -/
inductive Header (v : Vocabulary) (name : Text) : Text → Prop
  | intro : Front v name f → d ∈ "|]".toList → Header v name (f ++ [d])

theorem Front.head (h : Front v name f) : ∃ f', f = '[' :: f' := by
  cases h
  exact ⟨_, rfl⟩

theorem header_of_words (h : (link v name).Words w) : ∃ z, Header v name z ∧ z <+: w := by
  obtain ⟨f, k, hf, hk, rfl⟩ := words_link.mp h
  rcases hk with rfl | hk
  · exact ⟨_, .intro (d := ']') hf (by simp), [']'], by simp⟩
  · obtain ⟨_, z, rfl, hk, -⟩ := (words_append rfl rfl).mp hk
    obtain ⟨_, y, rfl, hpipe, -⟩ := (words_append rfl rfl).mp hk
    obtain rfl := words_ofText.mp hpipe
    exact ⟨_, .intro (d := '|') hf (by simp), y ++ (z ++ "]]".toList), by simp⟩

theorem free_links (h : Free (Header v name) t) : Free (link v name).Words t := fun _ hw hin =>
  let ⟨z, hz, hp⟩ := header_of_words hw
  h z hz (hp.isInfix.trans hin)

/-- Where nothing is read as a mention, no link begins. -/
theorem free_of_vacant (h : Vacant (mention v name) b u r) : Free (Header v name) u := by
  rintro _ ⟨⟨h₁, hn, h₂, h₃, hx, h₄⟩, hd⟩ ⟨a, s, rfl⟩
  rename_i d g₁ n g₂ g₃ x g₄
  obtain ⟨gs, hreads⟩ := reads_of_link hn h₂ h₃ hx h₄ hd (lastOf b (a ++ "[[".toList ++ g₁)) (s ++ r)
  exact h (a ++ "[[".toList ++ g₁) (n ++ (g₂ ++ ':' :: g₃) ++ x ++ (g₄ ++ [d]) ++ s) _ (s ++ r) gs
    (by simp) (by simp) (by simp) hreads

/-- Signs that end the name of a file. -/
def endsName (d : Char) : Bool := "|]\x7d\n<".toList.contains d

/-- Text without those signs. -/
theorem not_endsName {t : Text} (h : ∀ d ∈ signs, d ≠ ':' → d ≠ '=' → d ≠ '[' → d ∉ t) :
    ∀ d ∈ t, (!endsName d) = true := by
  have hends : ∀ d ∈ "|]\x7d\n<".toList, d ∈ signs ∧ d ≠ ':' ∧ d ≠ '=' ∧ d ≠ '[' := by decide
  intro d hd
  rw [Bool.not_eq_true']
  by_contra hend
  rw [Bool.not_eq_false, endsName, List.contains_iff_mem] at hend
  obtain ⟨hsign, hcolon, hequals, hopen⟩ := hends d hend
  exact h d hsign hcolon hequals hopen hd

/-- What shows that a name is at its end is a gap, with such a sign behind it or nothing. -/
theorem Stop.exists_end (h : Stop r g₃) (hr : LineEnds r → LineEnds r') :
    ∃ g s, Gap g ∧ (∀ d ∈ s.head?, endsName d = true) ∧ g₃ ++ r' = g ++ s := by
  cases h with
  | @sign g d hg hd =>
    refine ⟨g, d :: r', hg, fun d' hd' => ?_, by simp⟩
    obtain rfl : d = d' := by simpa using hd'
    exact List.contains_iff_mem.mpr hd
  | line hg hline =>
    refine ⟨_, r', hg, fun d hd => ?_, rfl⟩
    obtain rfl := hr hline d hd
    decide

theorem behind_last {u v r r' : Text} (hr : c ∉ r) (hr' : c ∉ r') (h : u ++ c :: r = v ++ c :: r') :
    r = r' := by
  have hrev := congrArg List.reverse h
  simp only [List.reverse_append, List.reverse_cons, List.append_assoc, List.singleton_append] at hrev
  have hback := (append_cons_inj (by simpa using hr) (by simpa using hr') hrev).1
  exact List.reverse_injective hback

section
variable {v : Vocabulary} {old new : Text} (hv : ∀ ns ∈ v.profile.fileNamespaces, Plain ns)
  (hold : Plain old) (hnew : Plain new) (hdiff : ¬ Spells old (plainName new))
include hv hold hnew hdiff

/-- The new name does not complete a link that begins in front of the mention. -/
theorem front_not_across (hf : Front v old (a ++ (g₁ ++ (spaced new ++ g)))) (ha : a ≠ [])
    (hu : a <:+ u) (hstart : Start v (lastOf b u) g₁) (hg : Gap g) : False := by
  cases hstart with
  | line hline _ =>
    obtain ⟨u', rfl⟩ := hu
    obtain ⟨a, l, rfl⟩ := (List.eq_nil_or_concat a).resolve_left ha
    rw [List.concat_eq_append] at *
    obtain rfl : l = '\n' := hline l (by simp)
    exact hf.not_mem hv hold (d := '\n') (by decide) (by decide) (by decide) (by simp)
  | parameter _ => exact hf.not_mem hv hold (d := '=') (by decide) (by decide) (by decide) (by simp)
  | @link n g' g'' hn hg' hg'' =>
    generalize hfront : a ++ (n ++ (g' ++ ':' :: g'') ++ (spaced new ++ g)) = f at hf
    obtain ⟨h₁, hn', h₂, h₃, hx, h₄⟩ := hf
    rename_i k₁ n' k₂ k₃ x k₄
    have hcolon : ':' ∈ signs := by decide
    have hback : g'' ++ (spaced new ++ g) = k₃ ++ (x ++ k₄) := by
      refine behind_last (c := ':') (u := a ++ (n ++ g')) (v := "[[".toList ++ (k₁ ++ (n' ++ k₂)))
        ?_ ?_ ?_
      · simp [plain_gap hg'' _ hcolon, plain_spaced hnew _ hcolon, plain_gap hg _ hcolon]
      · simp [plain_gap h₃ _ hcolon, hx.plain hold _ hcolon, plain_gap h₄ _ hcolon]
      · simpa using hfront
    have hname : plainName new = x := by
      calc plainName new = Text.trim (g'' ++ (spaced new ++ g)) :=
            (Text.trim_between hg''.blank hg.blank _).symm
        _ = Text.trim x := by rw [hback, Text.trim_between h₃.blank h₄.blank]
        _ = x := Text.trim_of_solid hx.solid.1 hx.solid.2
    exact hdiff (hname ▸ hx)

/-- No link that begins in front of a mention ends in what is written for it: it would end where the
mention does. -/
theorem header_not_across (hz : Header v old (a ++ c)) (ha : a ≠ []) (hc : c ≠ []) (hu : a <:+ u)
    (hstart : Start v (lastOf b u) g₁) (hstop : Stop r g₃) (hr : LineEnds r → LineEnds r')
    (hp : c <+: g₁ ++ (spaced new ++ g₃) ++ r') : False := by
  obtain ⟨g, s, hg, hs, heq⟩ := hstop.exists_end hr
  obtain ⟨k, hk⟩ := hp
  obtain ⟨c, e, rfl⟩ := (List.eq_nil_or_concat c).resolve_left hc
  rw [List.concat_eq_append] at *
  generalize hw : a ++ (c ++ [e]) = w at hz
  obtain ⟨hf, hd⟩ := hz
  rename_i f d
  rw [← List.append_assoc] at hw
  obtain ⟨rfl, he⟩ := List.append_inj' hw rfl
  obtain rfl := (List.cons.inj he).1
  have hall : c ++ e :: k = g₁ ++ (spaced new ++ g) ++ s := by
    have htext : c ++ e :: k = g₁ ++ (spaced new ++ (g₃ ++ r')) := by simpa using hk
    rw [htext, heq]
    simp
  have hwritten : c = g₁ ++ (spaced new ++ g) := by
    refine (Text.append_inj_of_stop (p := fun d => !endsName d) ?_ ?_ ?_ ?_ hall).1
    · refine not_endsName fun d hsign hcolon _ hopen hmem => ?_
      exact hf.not_mem hv hold hsign hcolon hopen (List.mem_append_right a hmem)
    · have hends : ∀ d ∈ "|]".toList, endsName d = true := by decide
      simpa using hends e hd
    · refine not_endsName fun d hsign hcolon hequals _ => ?_
      simp [hstart.not_mem hv hsign hcolon hequals, plain_spaced hnew d hsign, plain_gap hg d hsign]
    · exact fun d hd => by simp [hs d hd]
  subst hwritten
  exact front_not_across hv hold hnew hdiff hf ha hu hstart hg

end

/-- The end of a line stays where it is. -/
theorem lineEnds_replaced (hv : ∀ ns ∈ v.profile.fileNamespaces, Plain ns) (hold : Plain old)
    (hne : plainName old ≠ []) (h : Replaces (mention v old) (renamed new) b t t') (ht : LineEnds t) :
    LineEnds t' := by
  cases h with
  | rest => exact ht
  | @hit _ u w r m r' _ hm _ =>
    cases u with
    | cons c u =>
      intro d hd
      obtain rfl : c = d := by simpa using hd
      exact ht c rfl
    | nil =>
      obtain ⟨g₁, x, g₃, rfl, hstart, hx, -⟩ := parts_of_takes new hm
      have hxne : x ≠ [] := (words_namePattern.mpr hx).ne_nil (nullable_namePattern hne)
      obtain ⟨c, y, hy⟩ := List.exists_cons_of_ne_nil (List.append_ne_nil_of_right_ne_nil g₁ hxne)
      have hfeed : c = '\n' := ht c (by simp [← List.append_assoc, hy])
      have hmem : '\n' ∈ g₁ ++ x := by simp [hy, hfeed]
      rcases List.mem_append.mp hmem with hmem | hmem
      · exact absurd hmem (hstart.not_mem hv (by decide) (by decide) (by decide))
      · exact absurd hmem (hx.plain hold _ (by decide))

/-- By induction on the matches: a link would begin in front of one of them, in what is written for it
or behind it. -/
theorem free_replaced (hv : ∀ ns ∈ v.profile.fileNamespaces, Plain ns) (hold : Plain old)
    (hnew : Plain new) (hne : plainName old ≠ []) (hdiff : ¬ Spells old (plainName new))
    (h : Replaces (mention v old) (renamed new) b t t') : Free (Header v old) t' := by
  induction h with
  | rest hvacant => exact free_of_vacant hvacant
  | @hit b u w r m r' hvacant hm hrest ih =>
    obtain ⟨g₁, x, g₃, rfl, hstart, hx, hstop, hwritten⟩ := parts_of_takes new hm
    rw [hwritten]
    intro z hz hin
    rcases List.infix_append_iff_ne_nil.mp hin with hin | hin | ⟨a, c, ha, hc, rfl, hu, hp⟩
    · exact free_of_vacant hvacant z hz hin
    · have hhead : z.head? = some '[' := by
        obtain ⟨hf, -⟩ := hz
        obtain ⟨f', rfl⟩ := hf.head
        rfl
      have hopen : '[' ∉ g₁ ++ (spaced new ++ g₃) := by
        have hsign : '[' ∈ signs := by decide
        have hg₃ : '[' ∉ g₃ := by
          cases hstop with
          | @sign g d hg hd =>
            have hall : ∀ d ∈ "|]\x7d\n<".toList, d ≠ '[' := by decide
            simp [plain_gap hg _ hsign, (hall d hd).symm]
          | line hg _ => exact plain_gap hg _ hsign
        simp [hstart.not_mem hv hsign (by decide) (by decide), plain_spaced hnew _ hsign, hg₃]
      exact ih z hz (infix_behind hhead hopen hin)
    · exact header_not_across hv hold hnew hdiff hz ha hc hu hstart hstop
        (lineEnds_replaced hv hold hne hrest) hp

/-- After a file is replaced by another one, no link to it is left, if the names and the namespaces
have no signs in them: removing it takes nothing but parameters, and commenting it out nothing. Only
names of the file are written anew, as the new name with spaces for its underscores. -/
theorem replace_leaves_no_link (hv : ∀ ns ∈ v.profile.fileNamespaces, Plain ns) (hold : Plain old)
    (hnew : Plain new) (hne : plainName old ≠ []) (hdiff : ¬ Spells old (plainName new)) (t : Text) :
    Renamed (Spells old) (spaced new) t (replace v old new t) ∧
      (linkTo v old).matches' (replace v old new t) = [] ∧
      remove v old (replace v old new t) = (parameterWith old).replaceAll
        (fun m => m.group 1 ++ m.group 2) (replace v old new t) ∧
      ∀ comment, commentOut v old comment (replace v old new t) = replace v old new t := by
  have hreplaced : Replaces (mention v old) (renamed new) none t (replace v old new t) := by
    rw [replace_eq]
    exact replaces_replaceAll (steady_mention v old) (nullable_mention hne) _ t
  have hfree := free_links (free_replaced hv hold hnew hne hdiff hreplaced)
  have hnone : (linkTo v old).matches' (replace v old new t) = [] := by
    rw [linkTo_eq, List.eq_nil_iff_forall_not_mem]
    intro m hm
    exact hfree _ ⟨_, reads_of_mem_matches (lexical_link v old) hm⟩ (infix_of_mem_matches hm)
  refine ⟨renamed_of_replaces hreplaced, hnone, ?_, fun comment => ?_⟩
  · rw [remove, hnone]
    rfl
  · exact replaceAll_of_free (lexical_link v old) hfree _

/-- What stands behind an equals sign in the name of a file is taken for the file. -/
theorem replace_behind_sign : ∃ v, Vocabulary.ofProfile .englishWikipedia = .ok v ∧
    (linkTo v "A=B.png".toList).isMatch "[[File:A=A=B.png]]".toList = false ∧
      replace v "A=B.png".toList "B.png".toList "[[File:A=A=B.png]]".toList =
        "[[File:A=B.png]]".toList ∧
      (linkTo v "A=B.png".toList).isMatch "[[File:A=B.png]]".toList = true := by
  have hrun : (Vocabulary.ofProfile .englishWikipedia).toOption.map (fun v =>
      ((linkTo v "A=B.png".toList).isMatch "[[File:A=A=B.png]]".toList,
        replace v "A=B.png".toList "B.png".toList "[[File:A=A=B.png]]".toList,
        (linkTo v "A=B.png".toList).isMatch "[[File:A=B.png]]".toList)) =
      some (false, "[[File:A=B.png]]".toList, true) := by
    decide +kernel
  obtain ⟨v, hv, hrun⟩ := Article.exists_ok_of_toOption_map hrun
  obtain ⟨hbefore, hrest⟩ := Prod.mk.inj hrun
  exact ⟨v, hv, hbefore, Prod.mk.inj hrest⟩

end Wikitext.Image
