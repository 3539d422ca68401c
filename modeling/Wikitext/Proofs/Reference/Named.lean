import Wikitext.Proofs.Fix.Passes
import Wikitext.Proofs.Fix.Repeats
import Wikitext.Proofs.Reference.Tag

/-!
# Definitions of one name

A definition begins with an opening tag and ends at the first closing tag behind its content, whatever
stands in between. So what is found in a text follows from where these tags stand (`Defined.unique`).
A definition that says the same as the first one of its name becomes a tag that refers to it, and
then the definitions that are left are found again (`mergeNamed_reuses`).
-/

namespace Wikitext.Reference

open Pattern Fix Mask
open Category (SameCaseless)

-- -----------------------------------------------------------------------------------------
-- Opening tags
-- -----------------------------------------------------------------------------------------

def opening : Pattern := front ++ lit ">"

/-- A tag that begins a reference, with its name: what is left of the value without white space
around it. -/
inductive Opening (name : Text) : Text → Prop
  | intro : SameCaseless "<ref".toList f → Key a → Value raw v → raw ≠ [] → Nameable raw →
      Text.trim raw = name → Opening name (f ++ (a ++ (v ++ ['>'])))

theorem opening_of_forms (h : opening.Forms w gs) :
    ∃ raw, gs = [(1, raw)] ∧ Opening (Text.trim raw) w := by
  obtain ⟨_, _, _, _, rfl, rfl, h₁, hr₂⟩ := (forms_append rfl rfl).mp h
  obtain ⟨f, a, v, raw, hf, ha, hv, hne, hraw, rfl, rfl⟩ := forms_front.mp h₁
  obtain ⟨rfl, rfl⟩ := forms_ofText.mp hr₂
  exact ⟨raw, rfl, by simpa using Opening.intro hf ha hv hne hraw rfl⟩

theorem forms_of_opening (h : Opening name w) : ∃ gs, opening.Forms w gs := by
  obtain @⟨f, a, raw, v, hf, ha, hv, hne, hraw, -⟩ := h
  refine ⟨[(1, raw)], (forms_append rfl rfl).mpr ⟨f ++ (a ++ v), ['>'], [(1, raw)], [], by simp, rfl, ?_,
    forms_ofText.mpr ⟨rfl, rfl⟩⟩⟩
  exact forms_front.mpr ⟨f, a, v, raw, hf, ha, hv, hne, hraw, rfl, rfl⟩

theorem Opening.tag (h : Opening name w) : Tag w := by
  obtain ⟨hf, ha, hv, -, hraw, -⟩ := h
  obtain ⟨f, rfl, hf'⟩ := exists_front (t := "ref".toList) hf
  have hfront := inside_of_sameCaseless ⟨by decide, by decide⟩ hf'
  simpa using Tag.intro (hfront.append (ha.inside.append (hv.inside hraw)))

/-- Without its double quotes, a value is the name between white space. -/
theorem Value.trim_unquoted (hraw : Nameable raw) (h : Value raw v) :
    Text.trim (v.filter (· != '"')) = Text.trim raw := by
  have hkeep : ∀ {x : Text}, '"' ∉ x → x.filter (· != '"') = x := fun hx =>
    List.filter_eq_self.mpr fun c hc => by simpa using ne_of_mem_of_not_mem hc hx
  have hquote : ∀ {q : Text}, Quote q → q.filter (· != '"') = [] := by
    rintro q (rfl | rfl) <;> rfl
  have hname : '"' ∉ raw := fun hm => absurd (hraw _ hm) (by decide)
  obtain ⟨hb, hq, hq', hb'⟩ := h
  simp only [List.filter_append, hkeep (hb.not_mem (by decide)), hquote hq, hkeep hname, hquote hq',
    hkeep (hb'.not_mem (by decide)), List.nil_append]
  exact Text.trim_between hb hb' raw

/-- However a tag is read, its name is the same. -/
theorem Opening.unique (h : Opening name w) (h' : Opening name' w) : name = name' := by
  obtain @⟨f, a, raw, v, hf, ha, hv, -, hraw, rfl⟩ := h
  generalize hw : f ++ (a ++ (v ++ ['>'])) = w at h'
  obtain @⟨f', a', raw', v', hf', ha', hv', -, hraw', rfl⟩ := h'
  obtain ⟨-, h₂⟩ := List.append_inj hw (hf.length_eq.symm.trans hf'.length_eq)
  obtain rfl := ha.unique ha' h₂
  obtain rfl := List.append_cancel_right (List.append_cancel_left h₂)
  rw [← hv.trim_unquoted hraw, hv'.trim_unquoted hraw']

/-- A tag that stands alone has a slash, which no opening tag has. -/
theorem Opening.slash_not_mem (h : Opening name w) : '/' ∉ w := by
  obtain ⟨hf, ha, hv, -, hraw, -⟩ := h
  simp only [List.mem_append, List.mem_singleton, not_or]
  exact ⟨not_mem_of_sameCaseless (by decide) (by decide) hf,
    ha.not_mem (by decide) (by decide) (by decide) (by decide),
    hv.not_mem (by decide) (fun hm => absurd (hraw _ hm) (by decide)) (by decide), by decide⟩

def AnyOpening (w : Text) : Prop := ∃ name, Opening name w

theorem tag_of_anyOpening (w : Text) (h : AnyOpening w) : Tag w := h.elim fun _ ho => ho.tag

theorem separate_anyOpening : Separate AnyOpening := fun hw hw' =>
  separate_tag (tag_of_anyOpening _ hw) (tag_of_anyOpening _ hw')

theorem separate_closing : Separate Closing := fun hw hw' => separate_tag hw.tag hw'.tag

theorem Opening.ne_nil (h : Opening name w) : w ≠ [] := by
  obtain ⟨-, -, -, -, -, -⟩ := h
  simp

theorem Opening.nameable (h : Opening name w) : Nameable name := by
  obtain ⟨-, -, -, -, hraw, rfl⟩ := h
  exact fun c hc => hraw c ((Text.trim_isInfix _).subset hc)

theorem tag_reuseTag (hname : Nameable name) : Tag (reuseTag name) := by
  have hfirst : "<ref name=\"".toList = '<' :: "ref name=\"".toList := by decide
  have hlast : "\" />".toList = "\" /".toList ++ ['>'] := by decide
  have hsplit : reuseTag name = _ := congrArg₂ (fun first last => first ++ name ++ last) hfirst hlast
  have htag : Tag ('<' :: ("ref name=\"".toList ++ (name ++ "\" /".toList) ++ ['>'])) :=
    .intro (Inside.append ⟨by decide, by decide⟩ (hname.inside.append ⟨by decide, by decide⟩))
  rw [hsplit]
  simpa only [List.cons_append, List.append_assoc] using htag

theorem not_anyOpening_reuseTag (name : Text) : ¬ AnyOpening (reuseTag name) := by
  rintro ⟨name', h⟩
  have hslash : '/' ∈ "\" />".toList := by decide
  exact h.slash_not_mem (List.mem_append_right _ hslash)

-- -----------------------------------------------------------------------------------------
-- Definitions
-- -----------------------------------------------------------------------------------------

/-- A content has a character, and behind that no closing tag. -/
structure Content (x : Text) : Prop where
  ne_nil : x ≠ []
  free : Free Closing x.tail

/-- A definition of this name with this content. -/
inductive Definition (name x : Text) : Text → Prop
  | intro : Opening name o → Content x → Closing e → Definition name x (o ++ (x ++ e))

def AnyDefinition (w : Text) : Prop := ∃ name x, Definition name x w

/-- A text with its definitions, in their order, each with its name and its content. A definition is
inside another one if it begins in the content of that. -/
inductive Defined : Text → List (Text × Text) → Prop
  | nil : Free AnyDefinition u → Defined u []
  | cons : Free AnyOpening u → Definition name x w → Defined r ds →
      Defined (u ++ (w ++ r)) ((name, x) :: ds)

theorem Content.unique (hx : Content x) (hx' : Content x') (he : Closing e) (he' : Closing e')
    (h : x ++ (e ++ r) = x' ++ (e' ++ r')) : x = x' ∧ r = r' := by
  obtain ⟨y, ys, rfl⟩ := List.exists_cons_of_ne_nil hx.ne_nil
  obtain ⟨y', ys', rfl⟩ := List.exists_cons_of_ne_nil hx'.ne_nil
  obtain ⟨rfl, htail⟩ := List.cons.inj h
  obtain ⟨rfl, -, rfl⟩ := Divided.first_unique separate_closing hx.free hx'.free he he' htail
  exact ⟨rfl, rfl⟩

theorem Closing.ne_nil (h : Closing e) : e ≠ [] := by
  obtain ⟨-, -⟩ := h
  simp

/-- The content ends where the first closing tag begins. -/
theorem exists_content (hx : x ≠ []) (he : Closing e) :
    ∃ x' e' r, Content x' ∧ Closing e' ∧ x ++ e = x' ++ (e' ++ r) := by
  obtain ⟨y, ys, rfl⟩ := List.exists_cons_of_ne_nil hx
  obtain ⟨parts, tail, hdiv⟩ := Divided.exists_parts (L := Closing) (fun _ h => h.ne_nil) (ys ++ e)
  generalize ht : ys ++ e = t at hdiv
  cases hdiv with
  | nil hfree => exact absurd (ht ▸ List.suffix_append ys e).isInfix (hfree e he)
  | @cons u e' r parts _ hu he' _ =>
    exact ⟨y :: u, e', r, ⟨by simp, hu⟩, he', by rw [List.cons_append, ht]; rfl⟩

theorem Definition.nameable (h : Definition name x w) : Nameable name := by
  obtain ⟨ho, -, -⟩ := h
  exact ho.nameable

theorem Definition.not_free (h : Definition name x w) : ¬ Free AnyDefinition (u ++ (w ++ r)) := fun hfree =>
  hfree w ⟨name, x, h⟩ ⟨u, r, List.append_assoc u w r⟩

theorem Defined.unique (h : Defined t ds) (h' : Defined t ds') : ds = ds' := by
  induction h generalizing ds' with
  | nil hu =>
    cases h' with
    | nil => rfl
    | cons _ hw _ => exact absurd hu hw.not_free
  | @cons u name x w r ds hu hw _ ih =>
    generalize ht : u ++ (w ++ r) = t at h'
    cases h' with
    | nil hu' => exact absurd (ht ▸ hu') hw.not_free
    | cons hu' hw' h' =>
      obtain ⟨ho, hx, he⟩ := hw
      obtain ⟨ho', hx', he'⟩ := hw'
      simp only [List.append_assoc] at ht
      obtain ⟨rfl, rfl, hrest⟩ := Divided.first_unique separate_anyOpening hu hu' ⟨_, ho⟩ ⟨_, ho'⟩ ht
      obtain ⟨rfl, rfl⟩ := hx.unique hx' he he' hrest
      rw [ho.unique ho', ih h']

/-- A tag that opens no reference leaves the definitions behind it as they are. -/
theorem Defined.skip (h : Defined r ds) (hu : Free AnyOpening u) (hv : Tag v) (hno : ¬ AnyOpening v) :
    Defined (u ++ (v ++ r)) ds := by
  cases h with
  | nil hr =>
    refine .nil ?_
    rintro w ⟨name, x, hw⟩ ⟨a, b, h⟩
    obtain @⟨o, e, ho, hx, he⟩ := hw
    simp only [List.append_assoc] at h
    rcases Separate.place_cases separate_tag ho.tag hv h with ⟨k, rfl⟩ | ⟨-, rfl⟩ | ⟨k, rfl⟩
    · exact hu o ⟨name, ho⟩ ⟨a, k, List.append_assoc a o k⟩
    · exact hno ⟨name, ho⟩
    · simp only [List.append_assoc, List.append_cancel_left_eq] at h
      exact hr _ ⟨name, x, .intro ho hx he⟩ ⟨k, b, by simpa only [List.append_assoc] using h⟩
  | @cons u' name x w r ds hu' hw h =>
    have hfree := hu.between separate_tag tag_of_anyOpening hv hno hu'
    have hall := Defined.cons hfree hw h
    simpa only [List.append_assoc] using hall

-- -----------------------------------------------------------------------------------------
-- What the search finds
-- -----------------------------------------------------------------------------------------

def contentPattern : Pattern := group 2 (many1Lazy anyChar)

def namedPattern : Pattern := opening ++ contentPattern ++ closing

theorem namedRef_eq : namedRef = namedPattern.compile := by
  have hany : (group 2 (many1Lazy anyChar)).caseless = group 2 (many1Lazy anyChar) := rfl
  rw [namedRef, caseless_append, caseless_append, caseless_append, caseless_front,
    caseless_close, hany, caseless_closingRef]
  rfl

theorem lexical_namedPattern : namedPattern.Lexical := ⟨rfl, rfl, rfl⟩

theorem words_namedPattern (ho : Opening name o) (hx : x ≠ []) (he : Closing e) :
    namedPattern.Words (o ++ (x ++ e)) := by
  obtain ⟨gs, hopening⟩ := forms_of_opening ho
  have hcontent : contentPattern.Forms x [(2, x)] :=
    forms_group.mpr ⟨[], rfl, forms_run1.mpr ⟨hx, by simp, rfl⟩⟩
  rw [← List.append_assoc]
  exact ⟨_, (forms_append rfl rfl).mpr ⟨o ++ x, e, _, [], rfl, rfl,
    (forms_append rfl rfl).mpr ⟨o, x, _, _, rfl, rfl, hopening, hcontent⟩,
    forms_closing.mpr ⟨he, rfl⟩⟩⟩

theorem exists_parts_of_words (h : namedPattern.Words w) :
    ∃ name o x e, Opening name o ∧ x ≠ [] ∧ Closing e ∧ w = o ++ (x ++ e) := by
  obtain ⟨gs, h⟩ := h
  obtain ⟨_, e, _, _, rfl, -, h₁, hr₂⟩ := (forms_append rfl rfl).mp h
  obtain ⟨o, x, _, _, rfl, -, hr₀, hr₁⟩ := (forms_append rfl rfl).mp h₁
  obtain ⟨raw, -, ho⟩ := opening_of_forms hr₀
  obtain ⟨_, -, hx⟩ := forms_group.mp hr₁
  obtain ⟨hne, -, -⟩ := forms_run1.mp hx
  exact ⟨_, o, x, e, ho, hne, (forms_closing.mp hr₂).1, by rw [List.append_assoc]⟩

theorem words_of_definition (h : AnyDefinition w) : namedPattern.Words w := by
  obtain ⟨name, x, h⟩ := h
  obtain ⟨ho, hx, he⟩ := h
  exact words_namedPattern ho hx.ne_nil he

theorem prefers_closing (he : Closing e) (r : Text) : closing.Prefers (fun _ => True) e r [] := by
  refine prefers_of_unique rfl rfl (forms_closing.mpr ⟨he, rfl⟩) trivial fun w' r' gs' heq hw' _ => ?_
  obtain ⟨he', rfl⟩ := forms_closing.mp hw'
  exact ⟨(Separate.prefix_unique separate_closing he he' he.ne_nil heq).symm, rfl⟩

/-- The search reads the content up to the first closing tag. -/
theorem prefers_content (hx : Content x) (he : Closing e) (r : Text) :
    contentPattern.Prefers (closing.Leads fun _ => True) x (e ++ r) [(2, x)] := by
  obtain ⟨hne, hfree⟩ := hx
  obtain ⟨y, ys, rfl⟩ := List.exists_cons_of_ne_nil hne
  have hleads := (prefers_closing he r).leads rfl rfl
  refine (prefers_many1Lazy rfl (by simp) (fun u v huv hv => ?_) hleads).group 2
  rintro ⟨e', r', _, heq, he', -⟩
  obtain ⟨he', -⟩ := forms_closing.mp he'
  rcases Separate.place_cases (u := []) separate_closing he' he heq.symm with ⟨k, rfl⟩ | ⟨rfl, -⟩ | ⟨k, hk⟩
  · exact hfree e' he' ⟨u, k, by simp [huv]⟩
  · exact hv rfl
  · exact hv (List.append_eq_nil_iff.mp hk.symm).1

/-- The definition that begins where the search finds something is what it finds. -/
theorem exists_chosen_definition (ho : Opening name o) (hx : Content x) (he : Closing e)
    (hc : c.Placed) (hr : c.rest = o ++ (x ++ (e ++ r))) :
    ∃ way raw, (namedPattern.compile.program.ways c).head? = some way ∧ c.Past (o ++ x ++ e) way.stop ∧
      way.captures.texts = [(2, x), (1, raw)] ∧ Text.trim raw = name := by
  have hcontent := prefers_content hx he r
  have hclosing := prefers_closing he r
  obtain ⟨gs, hopening⟩ := forms_of_opening ho
  obtain ⟨way, hway, hpast, -⟩ := (Exact.compile (p := opening) rfl ⟨0, 0, false⟩).complete hc hr
    (hopening.anywhere rfl _ _)
  have hleads := hcontent.leads rfl rfl
  obtain ⟨one, hone⟩ := Chosen.exists_chosen hway ((hpast.rest_eq hr).symm ▸ hleads)
  obtain ⟨w, hw, hreads⟩ := (Exact.compile (p := opening) rfl ⟨0, 0, false⟩).sound hc hone.mem
  obtain ⟨raw, htexts, ho'⟩ := opening_of_forms (hreads.anywhere rfl _ _)
  obtain rfl := Separate.prefix_unique separate_anyOpening ⟨_, ho⟩ ⟨_, ho'⟩ ho.ne_nil
    (hr.symm.trans hw.rest)
  obtain ⟨two, htwo, hpast₂, htexts₂⟩ := hcontent.behind rfl rfl rfl hc hone hw hr
  obtain ⟨all, hall, hpast₃, htexts₃⟩ := hclosing.behind rfl rfl rfl hc htwo hpast₂
    (by simpa only [List.append_assoc] using hr)
  refine ⟨all, raw, hall.head, hpast₃, ?_, ho'.unique ho⟩
  rw [htexts₃, htexts₂, htexts]
  rfl

/-- What a match is: a definition, with no opening tag left in front of it. -/
theorem definition_of_leftmost {m : Match} {c : Cursor} (hc : c.In t) (hu : c.Past u m.start)
    (hm : Regex.Leftmost t namedPattern.compile c m) :
    Free AnyOpening u ∧ Definition (Text.trim (m.group 1)) (m.group 2) m.text ∧
      c.rest = u ++ (m.text ++ m.stop.rest) := by
  obtain ⟨w, hw, hreads⟩ := (Exact.compile (p := namedPattern) rfl _).sound hu.placed
    (List.mem_of_head? hm.first)
  obtain ⟨name, o, x, e, ho, hne, he, rfl⟩ := exists_parts_of_words ⟨_, hreads.anywhere rfl _ _⟩
  obtain ⟨x', e', r, hx', he', hends⟩ := exists_content hne he
  have hrest : m.start.rest = o ++ (x' ++ (e' ++ (r ++ m.stop.rest))) := by
    rw [hw.rest, hends]
    simp only [List.append_assoc]
  obtain ⟨way, raw, hhead, hpast, htexts, hname⟩ := exists_chosen_definition ho hx' he' hu.placed hrest
  obtain rfl : way = ⟨m.stop, m.captures⟩ := Option.some.inj (hhead.symm.trans hm.first)
  have htext : m.text = o ++ x' ++ e' := hpast.take_eq hu.placed
  have hfirst : m.group 1 = raw := by
    rw [Match.group, m.group?_eq (by decide), htexts]
    rfl
  have hsecond : m.group 2 = x' := by
    rw [Match.group, m.group?_eq (by decide), htexts]
    rfl
  have hall : c.rest = u ++ (m.text ++ m.stop.rest) := by rw [htext, hu.rest, hpast.rest]
  refine ⟨?_, ?_, hall⟩
  · rintro o' ⟨name', ho'⟩ ⟨a, b, rfl⟩
    refine hm.quiet.not_words lexical_namedPattern hc (a := a) (r := m.stop.rest)
      (w := o' ++ ((b ++ (o ++ x')) ++ e')) ?_ ?_ (words_namedPattern ho' (by simp [hx'.ne_nil]) he')
    · rw [hall, htext]
      simp only [List.append_assoc]
    · intro n hn
      obtain rfl : m.start.left = n := by simpa using hn
      have hpos := List.length_pos_iff.mpr ho'.ne_nil
      rw [hu.placed, hpast.rest]
      simp only [List.length_append]
      omega
  · rw [hfirst, hname, hsecond, htext, List.append_assoc]
    exact .intro ho hx' he'

/-- A text cut up at its definitions. -/
inductive Scanned : Text → List Piece → List (Text × Text) → Prop
  | last : Free AnyDefinition u → Scanned u [.kept u] []
  | hit {m : Match} : Free AnyOpening u → Definition (Text.trim (m.group 1)) (m.group 2) m.text → Scanned r ps ds →
      Scanned (u ++ (m.text ++ r)) (.kept u :: .hit m :: ps) ((Text.trim (m.group 1), m.group 2) :: ds)

theorem scanned_of_found {c : Cursor} (hc : c.In t) (h : Regex.Found t namedPattern.compile c ps) :
    ∃ ds, Scanned c.rest ps ds := by
  induction h with
  | @last c hq =>
    have hfree := hq.free lexical_namedPattern hc (u := c.rest) (r := []) (by simp) (by simp)
    exact ⟨[], .last (hfree.mono fun w => words_of_definition)⟩
  | @hit c m ps u hu hm _ ih =>
    obtain ⟨hfree, hdef, hrest⟩ := definition_of_leftmost hc hu hm
    have hstop : m.stop.In t := (Program.steady_compile (p := namedPattern) rfl _).in_of_mem_ways
      hm.inText _ (List.mem_of_head? hm.first)
    obtain ⟨ds, hds⟩ := ih hstop
    rw [hrest]
    exact ⟨_, .hit hfree hdef hds⟩

theorem exists_scanned (t : Text) : ∃ ds, Scanned t (namedPattern.compile.pieces t) ds :=
  scanned_of_found (.start t) (Regex.found_pieces rfl rfl t)

theorem Scanned.defined (h : Scanned t ps ds) : Defined t ds := by
  induction h with
  | last hu => exact .nil hu
  | hit hu hdef _ ih => exact .cons hu hdef ih

-- -----------------------------------------------------------------------------------------
-- Merging
-- -----------------------------------------------------------------------------------------

/-- The definition says the same as the first one of its name. -/
def repeats (seen : Definitions) (d : Text × Text) : Bool :=
  seen.lookup d.1 == some (Text.trim d.2)

def remember (seen : Definitions) (d : Text × Text) : Definitions :=
  if (seen.lookup d.1).isSome then seen else (d.1, Text.trim d.2) :: seen

/-- The definitions that are left. -/
def kept (seen : Definitions) : List (Text × Text) → List (Text × Text)
  | [] => []
  | d :: ds => if repeats seen d then kept seen ds else d :: kept (remember seen d) ds

theorem kept_sublist (seen : Definitions) (ds : List (Text × Text)) : (kept seen ds).Sublist ds := by
  induction ds generalizing seen with
  | nil => exact .slnil
  | cons d ds ih =>
    rw [kept]
    split
    · exact (ih seen).cons d
    · exact (ih _).cons_cons d

theorem kept_kept (seen : Definitions) (ds : List (Text × Text)) :
    kept seen (kept seen ds) = kept seen ds := by
  induction ds generalizing seen with
  | nil => rfl
  | cons d ds ih =>
    by_cases hd : repeats seen d = true
    · simpa only [kept, if_pos hd] using ih seen
    · simpa only [kept, if_neg hd, List.cons.injEq, true_and] using ih (remember seen d)

section
variable {m : Match}

theorem reuseOne_of_repeats (h : repeats seen (Text.trim (m.group 1), m.group 2) = true) :
    reuseOne m seen = (reuseTag (Text.trim (m.group 1)), seen) := by
  have hlookup := eq_of_beq h
  simp only at hlookup
  simp only [reuseOne, hlookup, BEq.rfl, if_true]

theorem reuseOne_of_not_repeats (h : ¬ repeats seen (Text.trim (m.group 1), m.group 2) = true) :
    reuseOne m seen = (m.text, remember seen (Text.trim (m.group 1), m.group 2)) := by
  simp only [repeats] at h
  unfold reuseOne remember
  cases hlookup : seen.lookup (Text.trim (m.group 1)) with
  | none => simp [hlookup]
  | some first =>
    have hne : (first == Text.trim (m.group 2)) = false := by
      rw [hlookup] at h
      simpa using h
    simp [hlookup, hne]

end

theorem remember_subset (hsub : seen ⊆ ds) : remember seen d ⊆ (d.1, Text.trim d.2) :: ds := by
  rw [remember]
  split
  · exact List.subset_cons_of_subset _ hsub
  · exact List.cons_subset_cons _ hsub

/-- What becomes of a text that stands behind these definitions: some definitions become tags that
refer to an earlier one of the same name with the same content. -/
inductive Reuses : Definitions → Text → Text → Prop
  | rest : Reuses ds u u
  | keeps : Definition name x w → Reuses ((name, Text.trim x) :: ds) r r' →
      Reuses ds (u ++ (w ++ r)) (u ++ (w ++ r'))
  | refers : Definition name x w → (name, Text.trim x) ∈ ds → Reuses ds r r' →
      Reuses ds (u ++ (w ++ r)) (u ++ (reuseTag name ++ r'))

/-- By induction on the definitions that are found. -/
theorem Scanned.reuses (h : Scanned t ps defs) (hsub : seen ⊆ ds) (out : Text) :
    ∃ t', (ps.foldl (replacePiece reuseOne) (out, seen)).1 = out ++ t' ∧ Reuses ds t t' ∧
      Defined t' (kept seen defs) := by
  induction h generalizing seen ds out with
  | @last u hu => exact ⟨u, rfl, .rest, .nil hu⟩
  | @hit u r ps defs m hu hdef _ ih =>
    simp only [List.foldl_cons, replacePiece]
    by_cases hrepeats : repeats seen (Text.trim (m.group 1), m.group 2) = true
    · obtain ⟨t', hfold, hreuses, hdefined⟩ := ih hsub (out ++ u ++ reuseTag (Text.trim (m.group 1)))
      rw [reuseOne_of_repeats hrepeats, kept, if_pos hrepeats]
      obtain ⟨_, _, hpair, -⟩ := List.lookup_eq_some_iff.mp (eq_of_beq hrepeats)
      have hmem : (Text.trim (m.group 1), Text.trim (m.group 2)) ∈ seen := hpair ▸ by simp
      exact ⟨_, by rw [hfold, List.append_assoc, List.append_assoc], .refers hdef (hsub hmem) hreuses,
        hdefined.skip hu (tag_reuseTag hdef.nameable) (not_anyOpening_reuseTag _)⟩
    · obtain ⟨t', hfold, hreuses, hdefined⟩ := ih (remember_subset hsub) (out ++ u ++ m.text)
      rw [reuseOne_of_not_repeats hrepeats, kept, if_neg hrepeats]
      exact ⟨_, by rw [hfold, List.append_assoc, List.append_assoc], .keeps hdef hreuses,
        .cons hu hdef hdefined⟩

/-- Where no definition is to become a tag, nothing changes. -/
theorem Scanned.foldl_eq (h : Scanned t ps defs) (hkept : kept seen defs = defs) (out : Text) :
    (ps.foldl (replacePiece reuseOne) (out, seen)).1 = out ++ t := by
  induction h generalizing seen out with
  | last => rfl
  | @hit u r ps defs m hu hdef _ ih =>
    have hrepeats : ¬ repeats seen (Text.trim (m.group 1), m.group 2) = true := by
      intro hrepeats
      have hlen := (kept_sublist seen defs).length_le
      rw [kept, if_pos hrepeats] at hkept
      rw [hkept, List.length_cons] at hlen
      omega
    rw [kept, if_neg hrepeats] at hkept
    simp only [List.foldl_cons, replacePiece, reuseOne_of_not_repeats hrepeats]
    rw [ih (List.cons.inj hkept).2]
    simp only [List.append_assoc]

theorem reusePass_eq (t : Text) : (namedRef.replaceWith reuseOne [] t).1 =
    ((namedPattern.compile.pieces t).foldl (replacePiece reuseOne) ([], [])).1 := by
  rw [replaceWith_eq, namedRef_eq]

/-- Merging changes no more than it says, and is done when it has been done once. -/
theorem mergeNamed_reuses (t : Text) :
    Reuses [] t (mergeNamed t) ∧ mergeNamed (mergeNamed t) = mergeNamed t := by
  obtain ⟨defs, hscanned⟩ := exists_scanned t
  obtain ⟨t', hfold, hreuses, hdefined⟩ := hscanned.reuses (List.Subset.refl []) []
  rw [← reusePass_eq, List.nil_append] at hfold
  obtain ⟨defs', hscanned'⟩ := exists_scanned t'
  obtain rfl := hscanned'.defined.unique hdefined
  have hagain := hscanned'.foldl_eq (kept_kept [] defs) []
  rw [← reusePass_eq, List.nil_append] at hagain
  have hmerge : mergeNamed t = t' := by
    rw [mergeNamed, untilStable_of_idempotent (by rw [hfold, hagain]), hfold]
  rw [hmerge]
  exact ⟨hreuses, untilStable_of_fixed hagain⟩

/-- Single quotes are part of the name, also in the tag. -/
example : mergeNamed "<ref name='s'>Smith</ref> <ref name='s'>Smith</ref>".toList =
    "<ref name='s'>Smith</ref> <ref name=\"'s'\" />".toList := by
  decide +kernel

end Wikitext.Reference
