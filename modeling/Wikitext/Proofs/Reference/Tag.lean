import Wikitext.Fix.References
import Wikitext.Proofs.Category.Link
import Wikitext.Proofs.Pattern.Preference

/-!
# Tags that name a reference

A tag with nothing but a name is read in parts: its front, the attribute up to the equals sign, and
the value, which is the name with white space and perhaps double quotes around it. White space and
quotes can be told apart from the name in several ways, and the search prefers the one that leaves
the name bare (`prefers_nameTag`). So it finds a name in a text exactly if a tag with that name
stands there (`named_iff`).
-/

namespace Wikitext

/-- There are no angle brackets in the text. -/
def Inside (x : Text) : Prop := '<' ∉ x ∧ '>' ∉ x

/-- A text between angle brackets, which do not occur inside. -/
inductive Tag : Text → Prop
  | intro : Inside x → Tag ('<' :: (x ++ ['>']))

theorem Inside.append (hx : Inside x) (hy : Inside y) : Inside (x ++ y) := by
  simp only [Inside, List.mem_append, not_or] at hx hy ⊢
  exact ⟨⟨hx.1, hy.1⟩, hx.2, hy.2⟩

theorem Blank.inside (hb : Blank b) : Inside b := ⟨hb.not_mem (by decide), hb.not_mem (by decide)⟩

theorem separate_tag : Separate Tag := by
  rintro w w' a r r' ⟨ho, hc⟩ ⟨-, hc'⟩ h
  rename_i x y
  cases a with
  | nil =>
    have hxy : x ++ ('>' :: r) = y ++ ('>' :: r') := by simpa using h
    exact .inl ⟨rfl, by rw [(append_cons_inj hc hc' hxy).1]⟩
  | cons c a =>
    have hx : '<' ∉ x ++ ['>'] := by simp [ho]
    simp only [List.cons_append, List.cons.injEq] at h
    obtain ⟨rfl, h⟩ := h
    obtain ⟨a', rfl⟩ := exists_append_of_not_mem hx h
    exact .inr ⟨a', rfl⟩

theorem Tag.exists_cons (h : Tag w) : ∃ x, w = '<' :: x := by
  obtain ⟨-⟩ := h
  exact ⟨_, rfl⟩

theorem Tag.solid (h : Tag w) (r : Text) : ∀ c ∈ (w ++ r).head?, Chars.isBlank c = false := by
  obtain ⟨x, rfl⟩ := h.exists_cons
  exact Text.solid_cons (by decide) (x ++ r)

/-- A tag is seen wherever white space is trimmed. -/
theorem Tag.in_trim (hw : Tag w) (h : w <:+: t) : w <:+: Text.trim t := by
  obtain ⟨hx⟩ := hw
  rename_i x
  refine Text.infix_trim (by simp) (fun c hc => ?_) (fun c hc => ?_) h
  · obtain rfl : '<' = c := by simpa using hc
    decide
  · obtain rfl : '>' = c := by simpa [List.getLast?_append, List.getLast?_cons] using hc
    decide

namespace Reference

open Pattern Fix
open Category (SameCaseless)

-- -----------------------------------------------------------------------------------------
-- The parts of a tag
-- -----------------------------------------------------------------------------------------

/-- The attribute up to its value. -/
inductive Key : Text → Prop
  | intro : Blank b → b ≠ [] → SameCaseless "name".toList n → Blank b' →
      Key (b ++ (n ++ (b' ++ ['='])))

/-- A double quote, or nothing. -/
def Quote (q : Text) : Prop := q = [] ∨ q = ['"']

/-- A slash, or nothing. -/
def Slash (s : Text) : Prop := s = [] ∨ s = ['/']

/-- A name with white space, and perhaps double quotes, around it. -/
inductive Value (name : Text) : Text → Prop
  | intro : Blank b → Quote q → Quote q' → Blank b' → Value name (b ++ (q ++ (name ++ (q' ++ b'))))

/-- A tag with nothing but this name, which may stand alone or begin a reference. -/
inductive NameTag (name : Text) : Text → Prop
  | intro : SameCaseless "<ref".toList f → Key a → Value name v → Slash s →
      NameTag name (f ++ (a ++ (v ++ (s ++ ['>']))))

theorem blank_space : Blank [' '] := blank_singleton.mpr (by decide)

theorem key_standard : Key " name=".toList :=
  show Key ([' '] ++ ("name".toList ++ ([] ++ ['=']))) from
    .intro blank_space (by simp) (Category.sameCaseless_self _) blank_nil

/-- Characters that a name may have. -/
def Nameable (x : Text) : Prop := ∀ c ∈ x, (!"\"<>/".toList.contains c) = true

/-- A name without white space around it. -/
structure Bare (name : Text) : Prop where
  ne_nil : name ≠ []
  nameable : Nameable name
  trimmed : Text.trim name = name

-- -----------------------------------------------------------------------------------------
-- The patterns of the parts
-- -----------------------------------------------------------------------------------------

def nameKey : Pattern := many1 blank ++ (lit "name").caseless ++ blanks ++ lit "="

/-- A tag up to its end. -/
def front : Pattern := (lit "<ref").caseless ++ (nameKey ++ blanks) ++ refName ++ blanks

def tagPattern : Pattern := front ++ opt (lit "/") ++ lit ">"

theorem caseless_open : (lit "<").caseless = lit "<" := caseless_ofText (by decide)

theorem caseless_slash : (lit "/").caseless = lit "/" := caseless_ofText (by decide)

theorem caseless_close : (lit ">").caseless = lit ">" := caseless_ofText (by decide)

theorem caseless_nameAttribute : nameAttribute.caseless = nameKey ++ blanks := by
  have hblanks : (many1 blank).caseless = many1 blank := congrArg many1 caseless_blank
  have hequals : (lit "=").caseless = lit "=" := caseless_ofText (by decide)
  simp only [nameKey, nameAttribute, caseless_append, hblanks, caseless_blanks, hequals]

theorem caseless_front : (lit "<ref" ++ nameAttribute ++ refName ++ blanks).caseless = front := by
  have hquote : (lit "\"").caseless = lit "\"" := caseless_ofText (by decide)
  have hquotes : (opt (lit "\"")).caseless = opt (lit "\"") := congrArg opt hquote
  have hname : (group 1 (many1Lazy (noneOf "\"<>/"))).caseless = group 1 (many1Lazy (noneOf "\"<>/")) :=
    congrArg (fun p => group 1 (many1Lazy p)) (caseless_noneOf (by decide))
  simp only [front, refName, caseless_append, caseless_nameAttribute, caseless_blanks, hquotes, hname]

theorem namedTag_eq : namedTag = tagPattern.compile := by
  have hslashes : (opt (lit "/")).caseless = opt (lit "/") := congrArg opt caseless_slash
  rw [namedTag, caseless_append, caseless_append, caseless_front, hslashes, caseless_close]
  rfl

theorem forms_blanks : blanks.Forms w gs ↔ Blank w ∧ gs = [] := forms_run

theorem forms_nameKey : nameKey.Forms w gs ↔ Key w ∧ gs = [] := by
  rw [nameKey, forms_append rfl rfl]
  constructor
  · rintro ⟨_, _, _, _, rfl, rfl, h₃, hr₄⟩
    obtain ⟨_, b', _, _, rfl, rfl, h₂, hr₃⟩ := (forms_append rfl rfl).mp h₃
    obtain ⟨b, n, _, _, rfl, rfl, hr₁, hr₂⟩ := (forms_append rfl rfl).mp h₂
    obtain ⟨hne, hb, rfl⟩ := forms_run1.mp hr₁
    obtain ⟨hn, rfl⟩ := forms_ofText_caseless.mp hr₂
    obtain ⟨hb', rfl⟩ := forms_blanks.mp hr₃
    obtain ⟨rfl, rfl⟩ := forms_ofText.mp hr₄
    exact ⟨by simpa using Key.intro hb hne hn hb', rfl⟩
  · rintro ⟨@⟨b, n, b', hb, hne, hn, hb'⟩, rfl⟩
    refine ⟨b ++ n ++ b', ['='], [], [], by simp, rfl, ?_, forms_ofText.mpr ⟨rfl, rfl⟩⟩
    refine (forms_append rfl rfl).mpr ⟨_, _, [], [], rfl, rfl, ?_, forms_blanks.mpr ⟨hb', rfl⟩⟩
    exact (forms_append rfl rfl).mpr ⟨_, _, [], [], rfl, rfl, forms_run1.mpr ⟨hne, hb, rfl⟩,
      forms_ofText_caseless.mpr ⟨hn, rfl⟩⟩

theorem forms_quote : (opt (lit "\"")).Forms w gs ↔ Quote w ∧ gs = [] := by
  rw [forms_opt, lit, forms_ofText, ← or_and_right]
  rfl

theorem forms_slash : (opt (lit "/")).Forms w gs ↔ Slash w ∧ gs = [] := by
  rw [forms_opt, lit, forms_ofText, ← or_and_right]
  rfl

theorem forms_refName : refName.Forms w gs ↔ ∃ q name q', Quote q ∧ name ≠ [] ∧ Nameable name ∧
    Quote q' ∧ gs = [(1, name)] ∧ w = q ++ (name ++ q') := by
  rw [refName, forms_append rfl rfl]
  constructor
  · rintro ⟨_, q', _, _, rfl, rfl, h₂, hr₃⟩
    obtain ⟨q, name, _, _, rfl, rfl, hr₁, hr₂⟩ := (forms_append rfl rfl).mp h₂
    obtain ⟨hq, rfl⟩ := forms_quote.mp hr₁
    obtain ⟨_, rfl, hinner⟩ := forms_group.mp hr₂
    obtain ⟨hne, hname, rfl⟩ := forms_run1.mp hinner
    obtain ⟨hq', rfl⟩ := forms_quote.mp hr₃
    exact ⟨q, name, q', hq, hne, hname, hq', rfl, by simp⟩
  · rintro ⟨q, name, q', hq, hne, hname, hq', rfl, rfl⟩
    refine ⟨q ++ name, q', [(1, name)], [], by simp, rfl, ?_, forms_quote.mpr ⟨hq', rfl⟩⟩
    exact (forms_append rfl rfl).mpr ⟨q, name, [], [(1, name)], rfl, rfl, forms_quote.mpr ⟨hq, rfl⟩,
      forms_group.mpr ⟨[], rfl, forms_run1.mpr ⟨hne, hname, rfl⟩⟩⟩

theorem forms_front : front.Forms w gs ↔ ∃ f a v name, SameCaseless "<ref".toList f ∧ Key a ∧
    Value name v ∧ name ≠ [] ∧ Nameable name ∧ gs = [(1, name)] ∧ w = f ++ (a ++ v) := by
  rw [front, forms_append rfl rfl]
  constructor
  · rintro ⟨_, b', _, _, rfl, rfl, h₃, hr₄⟩
    obtain ⟨_, _, _, _, rfl, rfl, h₂, hr₃⟩ := (forms_append rfl rfl).mp h₃
    obtain ⟨f, _, _, _, rfl, rfl, hr₀, h₁⟩ := (forms_append rfl rfl).mp h₂
    obtain ⟨a, b, _, _, rfl, rfl, hr₁, hr₂⟩ := (forms_append rfl rfl).mp h₁
    obtain ⟨hf, rfl⟩ := forms_ofText_caseless.mp hr₀
    obtain ⟨ha, rfl⟩ := forms_nameKey.mp hr₁
    obtain ⟨hb, rfl⟩ := forms_blanks.mp hr₂
    obtain ⟨q, name, q', hq, hne, hname, hq', rfl, rfl⟩ := forms_refName.mp hr₃
    obtain ⟨hb', rfl⟩ := forms_blanks.mp hr₄
    exact ⟨f, a, _, name, hf, ha, .intro hb hq hq' hb', hne, hname, rfl, by simp⟩
  · rintro ⟨f, a, _, name, hf, ha, @⟨b, q, q', b', hb, hq, hq', hb'⟩, hne, hname, rfl, rfl⟩
    refine ⟨f ++ (a ++ b) ++ (q ++ (name ++ q')), b', [(1, name)], [], by simp, rfl, ?_,
      forms_blanks.mpr ⟨hb', rfl⟩⟩
    refine (forms_append rfl rfl).mpr ⟨_, _, [], [(1, name)], rfl, rfl, ?_,
      forms_refName.mpr ⟨q, name, q', hq, hne, hname, hq', rfl, rfl⟩⟩
    refine (forms_append rfl rfl).mpr ⟨f, a ++ b, [], [], rfl, rfl,
      forms_ofText_caseless.mpr ⟨hf, rfl⟩, ?_⟩
    exact (forms_append rfl rfl).mpr ⟨a, b, [], [], rfl, rfl, forms_nameKey.mpr ⟨ha, rfl⟩,
      forms_blanks.mpr ⟨hb, rfl⟩⟩

theorem forms_tagPattern : tagPattern.Forms w gs ↔
    ∃ name, NameTag name w ∧ name ≠ [] ∧ Nameable name ∧ gs = [(1, name)] := by
  rw [tagPattern, forms_append rfl rfl]
  constructor
  · rintro ⟨_, _, _, _, rfl, rfl, h₁, hr₂⟩
    obtain ⟨_, s, _, _, rfl, rfl, hr₀, hr₁⟩ := (forms_append rfl rfl).mp h₁
    obtain ⟨f, a, v, name, hf, ha, hv, hne, hname, rfl, rfl⟩ := forms_front.mp hr₀
    obtain ⟨hs, rfl⟩ := forms_slash.mp hr₁
    obtain ⟨rfl, rfl⟩ := forms_ofText.mp hr₂
    exact ⟨name, by simpa using NameTag.intro hf ha hv hs, hne, hname, rfl⟩
  · rintro ⟨name, @⟨f, a, v, s, hf, ha, hv, hs⟩, hne, hname, rfl⟩
    refine ⟨f ++ (a ++ v) ++ s, ['>'], [(1, name)], [], by simp, rfl, ?_, forms_ofText.mpr ⟨rfl, rfl⟩⟩
    exact (forms_append rfl rfl).mpr ⟨_, s, [(1, name)], [], rfl, rfl,
      forms_front.mpr ⟨f, a, v, name, hf, ha, hv, hne, hname, rfl, rfl⟩, forms_slash.mpr ⟨hs, rfl⟩⟩

-- -----------------------------------------------------------------------------------------
-- Tags with names are tags
-- -----------------------------------------------------------------------------------------

section
variable {y : Char} (hcase : Chars.Caseless y)
include hcase

theorem not_mem_of_sameCaseless (ht : y ∉ t) (h : SameCaseless t w) : y ∉ w := fun hm =>
  ht (mem_of_mem_anyCase h hm hcase.variants)

variable (hblank : Chars.isBlank y = false)
include hblank

theorem Key.not_mem (hname : y ∉ "name".toList) (hequals : y ≠ '=') (h : Key a) : y ∉ a := by
  obtain ⟨hb, -, hn, hb'⟩ := h
  simp only [List.mem_append, List.mem_singleton, not_or]
  exact ⟨hb.not_mem hblank, not_mem_of_sameCaseless hcase hname hn, hb'.not_mem hblank, hequals⟩

omit hcase in
theorem Value.not_mem (hname : y ∉ name) (hquote : y ≠ '"') (h : Value name v) : y ∉ v := by
  have hno : ∀ {q : Text}, Quote q → y ∉ q := by
    rintro q (rfl | rfl) <;> simp [hquote]
  obtain ⟨hb, hq, hq', hb'⟩ := h
  simp only [List.mem_append, not_or]
  exact ⟨hb.not_mem hblank, hno hq, hname, hno hq', hb'.not_mem hblank⟩

end

theorem inside_of_sameCaseless (ht : Inside t) (h : SameCaseless t w) : Inside w :=
  ⟨not_mem_of_sameCaseless (by decide) ht.1 h, not_mem_of_sameCaseless (by decide) ht.2 h⟩

theorem exists_front (hf : SameCaseless ('<' :: t) f) : ∃ f', f = '<' :: f' ∧ SameCaseless t f' := by
  obtain ⟨y, f', hy, hf', rfl⟩ := List.forall₂_cons_left_iff.mp hf
  rw [anyCase_single (by decide)] at hy
  exact ⟨f', by rw [eq_of_beq hy], hf'⟩

theorem sameCaseless_append (h : SameCaseless (s ++ t) w) :
    ∃ u v, w = u ++ v ∧ SameCaseless s u ∧ SameCaseless t v := by
  induction s generalizing w with
  | nil => exact ⟨[], w, rfl, .nil, h⟩
  | cons x s ih =>
    obtain ⟨y, w, hxy, hw, rfl⟩ := List.forall₂_cons_left_iff.mp h
    obtain ⟨u, v, rfl, hu, hv⟩ := ih hw
    exact ⟨y :: u, v, rfl, .cons hxy hu, hv⟩

theorem Key.inside (h : Key a) : Inside a :=
  ⟨h.not_mem (by decide) (by decide) (by decide) (by decide),
    h.not_mem (by decide) (by decide) (by decide) (by decide)⟩

theorem Slash.inside (h : Slash s) : Inside s := by
  rcases h with rfl | rfl <;> exact ⟨by decide, by decide⟩

theorem Nameable.inside (h : Nameable x) : Inside x :=
  ⟨fun hm => absurd (h _ hm) (by decide), fun hm => absurd (h _ hm) (by decide)⟩

theorem Value.inside (hname : Nameable name) (h : Value name v) : Inside v :=
  ⟨h.not_mem (by decide) hname.inside.1 (by decide), h.not_mem (by decide) hname.inside.2 (by decide)⟩

theorem NameTag.tag (hname : Nameable name) (h : NameTag name w) : Tag w := by
  obtain ⟨hf, ha, hv, hs⟩ := h
  obtain ⟨f, rfl, hf'⟩ := exists_front (t := "ref".toList) hf
  have hfront := inside_of_sameCaseless ⟨by decide, by decide⟩ hf'
  simpa using Tag.intro (hfront.append (ha.inside.append ((hv.inside hname).append hs.inside)))

theorem lexical_tagPattern : tagPattern.Lexical := ⟨rfl, rfl, rfl⟩

theorem tag_of_words (h : tagPattern.Words w) : Tag w := by
  obtain ⟨gs, h⟩ := h
  obtain ⟨name, htag, -, hname, -⟩ := forms_tagPattern.mp h
  exact htag.tag hname

theorem separate_tagPattern : Separate tagPattern.Words := fun hw hw' =>
  separate_tag (tag_of_words hw) (tag_of_words hw')

-- -----------------------------------------------------------------------------------------
-- The name that the search prefers
-- -----------------------------------------------------------------------------------------

/-- What begins with a solid character does so in any letter case. -/
theorem head_of_sameCaseless (hx : Chars.isBlank x = false) (h : SameCaseless (x :: t) w) (r : Text) :
    ∀ y ∈ (w ++ r).head?, Chars.isBlank y = false := by
  obtain ⟨y, w, hxy, -, rfl⟩ := List.forall₂_cons_left_iff.mp h
  intro z hz
  obtain rfl : y = z := by simpa using hz
  by_contra hblank
  rw [Bool.not_eq_false] at hblank
  rw [eq_of_anyCase (Chars.variants_blank hblank) hxy, hx] at hblank
  cases hblank

theorem Key.unique (ha : Key a) (ha' : Key a') (h : a ++ r = a' ++ r') : a = a' := by
  obtain ⟨hb₁, -, hn, hb₂⟩ := ha
  obtain ⟨hb₁', -, hn', hb₂'⟩ := ha'
  simp only [List.append_assoc] at h
  obtain ⟨rfl, h₂⟩ := hb₁.append_inj hb₁' (head_of_sameCaseless (by decide) hn _)
    (head_of_sameCaseless (by decide) hn' _) h
  obtain ⟨rfl, h₃⟩ := List.append_inj h₂ (hn.length_eq.symm.trans hn'.length_eq)
  obtain ⟨rfl, -⟩ := hb₂.append_inj hb₂' (Text.solid_cons (by decide) r)
    (Text.solid_cons (by decide) r') h₃
  rfl

theorem ending_quote {K : Text → Prop} (hend : Ending "/>".toList K) :
    Ending "\"/>".toList ((opt (lit "\"")).Leads K) := by
  rintro t ⟨q, r, gs, rfl, hq, hK⟩
  obtain ⟨hq, -⟩ := forms_quote.mp hq
  rcases hq with rfl | rfl
  · obtain ⟨c, hc, hhead⟩ := hend r hK
    exact ⟨c, List.mem_cons_of_mem _ hc, hhead⟩
  · exact ⟨'"', by decide, by rw [List.singleton_append, Text.visible_cons_solid (by decide)]; rfl⟩

section
variable {K : Text → Prop} (hend : Ending "/>".toList K) (hK : K r)
include hend hK

theorem prefers_quote (hq : Quote q) : (opt (lit "\"")).Prefers K q r [] := by
  refine prefers_of_unique rfl rfl (forms_quote.mpr ⟨hq, rfl⟩) hK fun w' r' gs' heq hw' hK' => ?_
  obtain ⟨hq', rfl⟩ := forms_quote.mp hw'
  refine ⟨?_, rfl⟩
  have hno : ∀ t, ¬ K (['"'] ++ t) := fun t => by
    refine hend.not_before (List.cons_ne_nil _ _) (fun c hc => ?_) (fun c hc hm => ?_) t
    · obtain rfl : '"' = c := Option.some.inj hc
      rfl
    · obtain rfl := List.mem_singleton.mp hc
      exact absurd hm (by decide)
  rcases hq with rfl | rfl <;> rcases hq' with rfl | rfl
  · rfl
  · exact absurd (heq ▸ hK) (hno r')
  · exact absurd (heq ▸ hK') (hno r)
  · rfl

/-- The name has no white space at its end that could belong to the rest. -/
theorem prefers_name (hname : Bare name) (hq : Quote q) :
    (group 1 (many1Lazy (noneOf "\"<>/"))).Prefers ((opt (lit "\"")).Leads K) name (q ++ r)
      [(1, name)] := by
  have hleads : (opt (lit "\"")).Leads K (q ++ r) := (prefers_quote hend hK hq).leads rfl rfl
  have hlast := (Text.solid_of_trim hname.trimmed).2
  have hall := hname.nameable
  obtain ⟨x, xs, rfl⟩ := List.exists_cons_of_ne_nil hname.ne_nil
  rw [Nameable, List.forall_mem_cons] at hall
  refine (prefers_many1Lazy hall.1 hall.2 (fun u v huv hv => ?_) hleads).group 1
  refine (ending_quote hend).not_before hv (fun c hc => hlast c ?_) (fun c hc hm => ?_) _
  · rw [huv, ← List.cons_append, List.getLast?_append, hc, Option.some_or]
    rfl
  · have hnameable := hall.2 c (huv ▸ List.mem_append_right u hc)
    have hcs : ∀ c ∈ "\"/>".toList, (!"\"<>/".toList.contains c) = false := by decide
    rw [hcs c hm] at hnameable
    cases hnameable

theorem prefers_refName (hname : Bare name) (hq : Quote q) (hq' : Quote q') :
    refName.Prefers K (q ++ (name ++ q')) r [(1, name)] := by
  have hend' := prefers_quote hend hK hq'
  have hmiddle := prefers_name hend hK hname hq'
  have hfirst : (opt (lit "\"")).Prefers ((group 1 (many1Lazy (noneOf "\"<>/"))).Leads
      ((opt (lit "\"")).Leads K)) q (name ++ (q' ++ r)) [] := by
    refine prefers_of_unique rfl rfl (forms_quote.mpr ⟨hq, rfl⟩) (hmiddle.leads rfl rfl) ?_
    intro w' r' gs' heq hw' hleads
    obtain ⟨hq'', rfl⟩ := forms_quote.mp hw'
    refine ⟨?_, rfl⟩
    have hno : ∀ {name' t t'}, name' ≠ [] → Nameable name' → name' ++ t ≠ '"' :: t' := by
      intro name' t t' hne hn heq
      obtain ⟨x, xs, rfl⟩ := List.exists_cons_of_ne_nil hne
      obtain ⟨rfl, -⟩ := List.cons.inj heq
      exact absurd (hn _ List.mem_cons_self) (by decide)
    rcases hq with rfl | rfl <;> rcases hq'' with rfl | rfl
    · rfl
    · exact (hno hname.ne_nil hname.nameable heq).elim
    · obtain ⟨n, t, gs, rfl, hn, -⟩ := hleads
      obtain ⟨_, -, hn⟩ := forms_group.mp hn
      obtain ⟨hne, hn, -⟩ := forms_run1.mp hn
      exact (hno hne hn heq.symm).elim
    · rfl
  have hall : refName.Prefers K (q ++ name ++ q') r [(1, name)] :=
    (hfirst.append rfl rfl rfl hmiddle).append rfl rfl rfl hend'
  rwa [List.append_assoc] at hall

end

theorem prefers_keyPart {K : Text → Prop} (hf : SameCaseless "<ref".toList f) (ha : Key a)
    (hb : Blank b) (hr : ∀ c ∈ r.head?, Chars.isBlank c = false) (hK : K r) :
    ((lit "<ref").caseless ++ (nameKey ++ blanks)).Prefers K (f ++ (a ++ b)) r [] := by
  have hblanks : blanks.Prefers K b r [] := prefers_many hb hr hK
  have hkey : nameKey.Prefers (blanks.Leads K) a (b ++ r) [] := by
    refine prefers_of_unique rfl rfl (forms_nameKey.mpr ⟨ha, rfl⟩) (hblanks.leads rfl rfl) ?_
    rintro w' r' gs' heq hw' -
    obtain ⟨ha', rfl⟩ := forms_nameKey.mp hw'
    exact ⟨ha'.unique ha heq.symm, rfl⟩
  have hboth : (nameKey ++ blanks).Prefers K (a ++ b) r [] := hkey.append rfl rfl rfl hblanks
  have hfront : (lit "<ref").caseless.Prefers ((nameKey ++ blanks).Leads K) f (a ++ b ++ r) [] := by
    refine prefers_of_unique rfl rfl (forms_ofText_caseless.mpr ⟨hf, rfl⟩) (hboth.leads rfl rfl) ?_
    rintro w' r' gs' heq hw' -
    obtain ⟨hf', rfl⟩ := forms_ofText_caseless.mp hw'
    exact ⟨(List.append_inj heq (hf.length_eq.symm.trans hf'.length_eq)).1.symm, rfl⟩
  exact hfront.append rfl rfl rfl hboth

/-- What is left of a tag behind the value. -/
theorem ending_slash : Ending "/>".toList ((opt (lit "/")).Leads ((lit ">").Leads fun _ => True)) := by
  rintro t ⟨s, _, _, rfl, hs, e, r, _, rfl, he, -⟩
  obtain ⟨hs, -⟩ := forms_slash.mp hs
  obtain ⟨rfl, -⟩ := forms_ofText.mp he
  rcases hs with rfl | rfl
  · exact ⟨'>', by decide, congrArg List.head? (Text.visible_cons_solid (by decide) r)⟩
  · exact ⟨'/', by decide, congrArg List.head? (Text.visible_cons_solid (by decide) ('>' :: r))⟩

theorem prefers_slash (hs : Slash s) (r : Text) :
    (opt (lit "/")).Prefers ((lit ">").Leads fun _ => True) s (['>'] ++ r) [] := by
  have hclose : (lit ">").Prefers (fun _ => True) ['>'] r [] := prefers_ofText trivial
  refine prefers_of_unique rfl rfl (forms_slash.mpr ⟨hs, rfl⟩) (hclose.leads rfl rfl) ?_
  rintro w' r' gs' heq hw' ⟨x, y, _, rfl, hx, -⟩
  obtain ⟨hs', rfl⟩ := forms_slash.mp hw'
  obtain ⟨rfl, -⟩ := forms_ofText.mp hx
  refine ⟨?_, rfl⟩
  rcases hs with rfl | rfl <;> rcases hs' with rfl | rfl
  · rfl
  · simp at heq
  · simp at heq
  · rfl

theorem Slash.solid (hs : Slash s) (r : Text) :
    ∀ c ∈ (s ++ (['>'] ++ r)).head?, Chars.isBlank c = false := by
  rcases hs with rfl | rfl
  · exact Text.solid_cons (by decide) r
  · exact Text.solid_cons (by decide) ('>' :: r)

/-- The search reads the name of a tag without the white space and the double quotes around it. -/
theorem prefers_nameTag (hname : Bare name) (h : NameTag name w) (r : Text) :
    tagPattern.Prefers (fun _ => True) w r [(1, name)] := by
  obtain @⟨f, a, _, s, hf, ha, @⟨b, q, q', b', hb, hq, hq', hb'⟩, hs⟩ := h
  have hclose : (lit ">").Prefers (fun _ => True) ['>'] r [] := prefers_ofText trivial
  have hslash := prefers_slash hs r
  have hblanks : blanks.Prefers ((opt (lit "/")).Leads ((lit ">").Leads fun _ => True)) b'
      (s ++ (['>'] ++ r)) [] := prefers_many hb' (hs.solid r) (hslash.leads rfl rfl)
  have hvalue := prefers_refName ending_slash.blanks (hblanks.leads rfl rfl) hname hq hq'
  have hsolid : ∀ c ∈ (q ++ (name ++ q') ++ (b' ++ (s ++ (['>'] ++ r)))).head?,
      Chars.isBlank c = false := by
    obtain ⟨x, xs, rfl⟩ := List.exists_cons_of_ne_nil hname.ne_nil
    rcases hq with rfl | rfl
    · exact fun c hc => (Text.solid_of_trim hname.trimmed).1 c (by simpa using hc)
    · intro c hc
      obtain rfl : '"' = c := by simpa using hc
      decide
  have hfront := prefers_keyPart hf ha hb hsolid (hvalue.leads rfl rfl)
  have hall := (((hfront.append rfl rfl rfl hvalue).append rfl rfl rfl hblanks).append rfl rfl rfl
    hslash).append rfl rfl rfl hclose
  simpa [tagPattern, front] using hall

-- -----------------------------------------------------------------------------------------
-- The names in a text
-- -----------------------------------------------------------------------------------------

/-- A tag with this name stands in the text. -/
def Carries (t name : Text) : Prop := ∃ w, NameTag name w ∧ w <:+: t

theorem group_of_texts {m : Match} (h : m.captures.texts = [(1, name)]) : m.group 1 = name :=
  m.group_eq (by decide) (by rw [h]; rfl)

theorem nameTag_of_mem (hm : m ∈ namedTag.matches' t) : NameTag (m.group 1) m.text := by
  rw [namedTag_eq] at hm
  obtain ⟨name, htag, -, -, htexts⟩ := forms_tagPattern.mp (reads_of_mem_matches lexical_tagPattern hm)
  rwa [group_of_texts htexts]

/-- The search finds exactly the names that the tags of the text have. -/
theorem named_iff (hname : Bare name) :
    name ∈ (namedTag.matches' t).map (·.group 1) ↔ Carries t name := by
  rw [List.mem_map]
  constructor
  · rintro ⟨m, hm, rfl⟩
    exact ⟨m.text, nameTag_of_mem hm, infix_of_mem_matches hm⟩
  · rintro ⟨w, htag, hi⟩
    have hw : tagPattern.Words w := ⟨_, forms_tagPattern.mpr ⟨name, htag, hname.ne_nil, hname.nameable, rfl⟩⟩
    obtain ⟨m, hm, rfl⟩ := (found_iff lexical_tagPattern separate_tagPattern t w).mpr ⟨hw, hi⟩
    have hpreferred := eq_of_prefers rfl rfl hm rfl (prefers_nameTag hname htag m.after)
    exact ⟨m, namedTag_eq ▸ hm, group_of_texts hpreferred.2⟩

-- -----------------------------------------------------------------------------------------
-- Tags around a content
-- -----------------------------------------------------------------------------------------

/-- The end of a reference. -/
inductive Closing : Text → Prop
  | intro : SameCaseless "</ref".toList f → Blank b → Closing (f ++ (b ++ ['>']))

def closing : Pattern := (lit "</ref").caseless ++ blanks ++ lit ">"

theorem caseless_closingRef : closingRef.caseless = closing := by
  simp only [closingRef, closing, caseless_append, caseless_blanks, caseless_close]

theorem forms_closing : closing.Forms w gs ↔ Closing w ∧ gs = [] := by
  rw [closing, forms_append rfl rfl]
  constructor
  · rintro ⟨_, _, _, _, rfl, rfl, h₁, hr₂⟩
    obtain ⟨f, b, _, _, rfl, rfl, hr₀, hr₁⟩ := (forms_append rfl rfl).mp h₁
    obtain ⟨hf, rfl⟩ := forms_ofText_caseless.mp hr₀
    obtain ⟨hb, rfl⟩ := forms_blanks.mp hr₁
    obtain ⟨rfl, rfl⟩ := forms_ofText.mp hr₂
    exact ⟨by simpa using Closing.intro hf hb, rfl⟩
  · rintro ⟨@⟨f, b, hf, hb⟩, rfl⟩
    refine ⟨f ++ b, ['>'], [], [], by simp, rfl, ?_, forms_ofText.mpr ⟨rfl, rfl⟩⟩
    exact (forms_append rfl rfl).mpr ⟨f, b, [], [], rfl, rfl, forms_ofText_caseless.mpr ⟨hf, rfl⟩,
      forms_blanks.mpr ⟨hb, rfl⟩⟩

theorem Closing.tag (h : Closing w) : Tag w := by
  obtain ⟨hf, hb⟩ := h
  obtain ⟨f, rfl, hf'⟩ := exists_front (t := "/ref".toList) hf
  have hfront := inside_of_sameCaseless ⟨by decide, by decide⟩ hf'
  simpa using Tag.intro (hfront.append hb.inside)

end Reference

end Wikitext
