import Wikitext.Proofs.Fix.Names
import Wikitext.Proofs.Image.Link
import Wikitext.Proofs.Mask.Alike

/-!
# Images and addresses under masks

In a file link, brackets stand in pairs behind the namespace (`Rest`), so it ends at the first pair of
closing brackets that has no opening ones in front of it. A web address ends at a closing bracket or at
the first character that cannot belong to it. None of this depends on the kind of a placeholder
(`impartial_image`, `impartial_address`).
-/

namespace Wikitext

open Pattern

namespace Pattern

/-- There is no greedy run at the end of the pattern. -/
def rigid : Pattern → Bool
  | .seq _ q => q.rigid
  | .alt p q => p.rigid && q.rigid
  | .capture _ p => p.rigid
  | .times _ none true (.char _) => false
  | _ => true

theorem Spells.settles {p : Pattern} (h : p.Spells b w r) (hp : p.rigid = true) : p.Settles b w r := by
  induction p generalizing b w with
  | seq p q _ ihq =>
    cases h with
    | seq hu hv => exact ⟨_, _, rfl, hu, ihq hv hp⟩
  | alt p q ihp ihq =>
    rw [rigid, Bool.and_eq_true] at hp
    cases h with
    | left h => exact .inl (ihp h hp.1)
    | right h => exact .inr (ihq h hp.2)
  | capture i p ih =>
    cases h with
    | capture h => exact ih h hp
  | times least most greedy p _ =>
    rcases settles_times least most greedy p with ⟨accepts, rfl, rfl, rfl⟩ | hs
    · cases hp
    · rwa [hs]
  | _ => exact h

theorem Words.settles {p : Pattern} (h : p.Words w) (ha : p.anchorless = true) (hp : p.rigid = true)
    (b : Option Char) (r : Text) : p.Settles b w r :=
  let ⟨_, h⟩ := h
  (h.anywhere ha b r).spells.settles hp

end Pattern

namespace Mask

variable {k k' : Kind}

-- -----------------------------------------------------------------------------------------
-- What stands behind the namespace
-- -----------------------------------------------------------------------------------------

/-- The text has no square bracket. -/
def Unbracketed (t : Text) : Prop := ∀ c ∈ t, c ∉ ['[', ']']

/-- Behind the colon of a file link come links without links in them, and the closing brackets. -/
inductive Rest : Text → Prop
  | stop : Unbracketed n → Rest (n ++ [']', ']'])
  | link : Unbracketed n → Unbracketed m → Rest x → Rest (n ++ ('[' :: '[' :: (m ++ (']' :: ']' :: x))))

theorem words_plain : (many (noneOf "[]")).Words n ↔ Unbracketed n := by
  have hall : (∀ c ∈ n, (!"[]".toList.contains c) = true) ↔ Unbracketed n := by simp [Unbracketed]
  rw [← hall]
  exact ⟨fun ⟨_, h⟩ => (forms_run.mp h).1, fun h => ⟨[], forms_run.mpr ⟨h, rfl⟩⟩⟩

theorem unbracketed_append : Unbracketed (u ++ v) ↔ Unbracketed u ∧ Unbracketed v :=
  List.forall_mem_append

theorem Rest.behind (h : Rest x) (hu : Unbracketed u) : Rest (u ++ x) := by
  cases h with
  | stop hn =>
    rw [← List.append_assoc]
    exact .stop (unbracketed_append.mpr ⟨hu, hn⟩)
  | link hn hm hx =>
    rw [← List.append_assoc]
    exact .link (unbracketed_append.mpr ⟨hu, hn⟩) hm hx

theorem Unbracketed.append_inj {n n' r r' : Text} (hn : Unbracketed n) (hn' : Unbracketed n')
    (hc : c ∈ ['[', ']']) (hd : d ∈ ['[', ']']) (h : n ++ c :: r = n' ++ d :: r') :
    n = n' ∧ c :: r = d :: r' := by
  have hplain : ∀ {n}, Unbracketed n → ∀ x ∈ n, decide (x ∉ ['[', ']']) = true :=
    fun hn x hx => decide_eq_true (hn x hx)
  have hstop : ∀ {d} {r : Text}, d ∈ ['[', ']'] → ∀ x ∈ (d :: r).head?, decide (x ∉ ['[', ']']) = false := by
    rintro d r hd x hx
    obtain rfl := Option.some.inj hx
    exact decide_eq_false (not_not_intro hd)
  exact Text.append_inj_of_stop (hplain hn) (hstop hc) (hplain hn') (hstop hd) h

/-- A file link has one end. By induction on the links in it. -/
theorem Rest.append_inj (hx : Rest x) (hy : Rest y) (h : x ++ r = y ++ s) : x = y := by
  induction hx generalizing y with
  | stop hn =>
    cases hy with
    | stop hn' =>
      simp only [List.append_assoc, List.cons_append] at h
      rw [(hn.append_inj hn' (by simp) (by simp) h).1]
    | link hn' =>
      simp only [List.append_assoc, List.cons_append] at h
      have hcons := (hn.append_inj hn' (by simp) (by simp) h).2
      cases hcons
  | @link n m x hn hm _ ih =>
    cases hy with
    | stop hn' =>
      simp only [List.append_assoc, List.cons_append] at h
      have hcons := (hn.append_inj hn' (by simp) (by simp) h).2
      cases hcons
    | link hn' hm' hy =>
      simp only [List.append_assoc, List.cons_append] at h
      obtain ⟨rfl, hcons⟩ := hn.append_inj hn' (by simp) (by simp) h
      simp only [List.cons.injEq, true_and] at hcons
      obtain ⟨rfl, hrest⟩ := hm.append_inj hm' (by simp) (by simp) hcons
      simp only [List.cons.injEq, true_and] at hrest
      rw [ih hy hrest]

theorem Alike.unbracketed (h : Alike k k' t t') (ht : Unbracketed t) : Unbracketed t' :=
  h.forall_mem (by decide) ht

theorem Rest.alike (hx : Rest x) (h : Alike k k' x x') : Rest x' := by
  have hcut : ∀ {u v : Text} {c}, c ∈ ['[', ']'] → Parted u (c :: v) := fun hc =>
    Border.parted (.inr (by
      rintro d hd
      obtain rfl := Option.some.inj hd
      exact (by decide : ∀ d ∈ ['[', ']'], d ∉ marks) _ hc))
  induction hx generalizing x' with
  | stop hn =>
    obtain ⟨n', c, rfl, hn', hc⟩ := h.split (hcut (by simp))
    rw [hc.eq_of_bare (by decide)]
    exact .stop (hn'.unbracketed hn)
  | @link n m x hn hm _ ih =>
    obtain ⟨n', _, rfl, hn', hopen⟩ := h.split (hcut (by simp))
    obtain ⟨_, rfl, hinner⟩ := Alike.behind (u := ['[', '[']) hopen (by decide)
    obtain ⟨m', _, rfl, hm', hclose⟩ := Alike.split (u := m) hinner (hcut (by simp))
    obtain ⟨x', rfl, hrest⟩ := Alike.behind (u := [']', ']']) hclose (by decide)
    exact .link (hn'.unbracketed hn) (hm'.unbracketed hm) (ih hrest)

-- -----------------------------------------------------------------------------------------
-- File links
-- -----------------------------------------------------------------------------------------

/-- A file link up to the colon. -/
def imageFront (p : Profile) : Pattern :=
  lit "[[" ++ blanks ++ p.fileNamespace.caseless ++ blanks ++ lit ":"

def image (p : Profile) : Pattern :=
  imageFront p ++ many (noneOf "[]") ++ many Image.inCaption ++ lit "]]"

theorem images_eq (p : Profile) : Region.images p = (image p).compile := by
  have hopen : (lit "[[").caseless = lit "[[" := caseless_ofText (by decide)
  have hclose : (lit "]]").caseless = lit "]]" := caseless_ofText (by decide)
  have hcolon : (lit ":").caseless = lit ":" := caseless_ofText (by decide)
  have hplain : (noneOf "[]").caseless = noneOf "[]" := caseless_noneOf (by decide)
  have hmany : ∀ q : Pattern, (many q).caseless = many q.caseless := fun _ => rfl
  simp only [Region.images, caseless_append, hmany, hopen, hclose, hcolon, hplain, caseless_blanks]
  rfl

theorem simple_imageFront (p : Profile) : Image.Simple (imageFront p) :=
  ((((Image.simple_ofText _).append ⟨rfl, rfl, rfl⟩).append (Image.simple_namespaces p)).append
    ⟨rfl, rfl, rfl⟩).append (Image.simple_ofText _)

theorem simple_image (p : Profile) : Image.Simple (image p) :=
  (((simple_imageFront p).append ⟨rfl, rfl, rfl⟩).append ⟨rfl, rfl, rfl⟩).append (Image.simple_ofText _)

theorem words_inCaption : Image.inCaption.Words r ↔
    ∃ m n, Unbracketed m ∧ Unbracketed n ∧ r = '[' :: '[' :: (m ++ (']' :: ']' :: n)) := by
  rw [Image.inCaption, words_append rfl rfl]
  constructor
  · rintro ⟨_, n, rfl, hlink, hn⟩
    obtain ⟨_, _, rfl, hfront, hclose⟩ := (words_append rfl rfl).mp hlink
    obtain ⟨_, m, rfl, hopen, hm⟩ := (words_append rfl rfl).mp hfront
    rw [words_ofText.mp hopen, words_ofText.mp hclose]
    exact ⟨m, n, words_plain.mp hm, words_plain.mp hn, by simp⟩
  · rintro ⟨m, n, hm, hn, rfl⟩
    have hfront : (lit "[[" ++ many (noneOf "[]")).Words (['[', '['] ++ m) :=
      (words_append rfl rfl).mpr ⟨_, m, rfl, words_ofText.mpr rfl, words_plain.mpr hm⟩
    have hlink : (lit "[[" ++ many (noneOf "[]") ++ lit "]]").Words (['[', '['] ++ m ++ [']', ']']) :=
      (words_append rfl rfl).mpr ⟨_, _, rfl, hfront, words_ofText.mpr rfl⟩
    exact ⟨_, n, by simp, hlink, words_plain.mpr hn⟩

theorem rest_iff : Rest x ↔ ∃ (a : Text) (rs : List Text), Unbracketed a ∧
    (∀ r ∈ rs, Image.inCaption.Words r) ∧ x = a ++ (rs.flatten ++ [']', ']']) := by
  constructor
  · intro h
    induction h with
    | @stop n hn => exact ⟨n, [], hn, by simp, rfl⟩
    | @link n m x hn hm _ ih =>
      obtain ⟨a, rs, ha, hrs, rfl⟩ := ih
      have hr := words_inCaption.mpr ⟨m, a, hm, ha, rfl⟩
      exact ⟨n, _ :: rs, hn, List.forall_mem_cons.mpr ⟨hr, hrs⟩, by simp⟩
  · rintro ⟨a, rs, ha, hrs, rfl⟩
    refine Rest.behind ?_ ha
    induction rs with
    | nil => exact .stop (n := []) (by simp [Unbracketed])
    | cons r rs ih =>
      rw [List.forall_mem_cons] at hrs
      obtain ⟨m, n, hm, hn, rfl⟩ := words_inCaption.mp hrs.1
      have hlink := Rest.link (n := []) (by simp [Unbracketed]) hm ((ih hrs.2).behind hn)
      simpa using hlink

theorem words_image :
    (image p).Words w ↔ ∃ f x, (imageFront p).Words f ∧ Rest x ∧ w = f ++ x := by
  have hfront := (simple_imageFront p).anchorless
  have htext : (imageFront p ++ many (noneOf "[]")).anchorless = true :=
    Bool.and_eq_true _ _ |>.mpr ⟨hfront, rfl⟩
  have hlinks : (imageFront p ++ many (noneOf "[]") ++ many Image.inCaption).anchorless = true :=
    Bool.and_eq_true _ _ |>.mpr ⟨htext, rfl⟩
  rw [image, words_append hlinks rfl]
  constructor
  · rintro ⟨_, _, rfl, h, hclose⟩
    obtain ⟨_, _, rfl, h, ⟨gs, hrounds⟩⟩ := (words_append htext rfl).mp h
    obtain ⟨f, a, rfl, hf, ha⟩ := (words_append hfront rfl).mp h
    obtain ⟨rs, hrs, -, rfl⟩ := hrounds.rounds rfl
    rw [words_ofText.mp hclose]
    exact ⟨f, _, hf, rest_iff.mpr ⟨a, rs, words_plain.mp ha, hrs, rfl⟩, by simp⟩
  · rintro ⟨f, x, hf, hx, rfl⟩
    obtain ⟨a, rs, ha, hrs, rfl⟩ := rest_iff.mp hx
    have htext' := (words_append hfront rfl).mpr ⟨f, a, rfl, hf, words_plain.mpr ha⟩
    have hrounds : (many Image.inCaption).Words rs.flatten := words_rounds rfl hrs (Nat.zero_le _)
    have hlinks' := (words_append htext rfl).mpr ⟨_, rs.flatten, rfl, htext', hrounds⟩
    exact ⟨_, _, by simp, hlinks', words_ofText.mpr rfl⟩

section
variable {p : Profile} (hns : ∀ ns ∈ p.fileNamespaces, ∀ c ∈ ns, c ∉ "[]⌊⌋".toList)
include hns

/-- Up to the colon there are no brackets but the two at the beginning. -/
theorem imageFront_cases (h : (imageFront p).Words f) :
    Bare f ∧ ∃ y, f = '[' :: '[' :: y ∧ Unbracketed y := by
  have hname : ∀ xs, CaseClosure xs xs → xs ⊆ "[]⌊⌋".toList → p.fileNamespace.caseless.avoids xs = true :=
    fun xs hxs hsub => avoids_caseless hxs
      (Fix.avoids_fileNamespace fun ns hmem c hc hx => hns ns hmem c hc (hsub hx))
  have hcorners := hname corners Fix.caseClosure_corners (by decide)
  have hbrackets := hname ['[', ']'] (by decide) (by decide)
  obtain ⟨gs, h⟩ := h
  constructor
  · refine h.avoids ?_
    simp only [imageFront, avoids_append, hcorners]
    decide
  · have hopening : Opening '[' ']' (imageFront p) :=
      ((((Opening.brackets '[' ']').append rfl (by decide)).append (Image.simple_namespaces p).anchorless
        hbrackets).append rfl (by decide)).append rfl (by decide)
    obtain ⟨y, rfl, ho, hc⟩ := hopening.opens f gs h
    refine ⟨y, rfl, fun c hmem hbracket => ?_⟩
    rcases List.mem_pair.mp hbracket with rfl | rfl
    · exact ho hmem
    · exact hc hmem

theorem words_image_alike (hw : (image p).Words w) (h : Alike k k' w w') : (image p).Words w' := by
  obtain ⟨f, x, hf, hx, rfl⟩ := words_image.mp hw
  obtain ⟨x', rfl, hx'⟩ := h.behind (imageFront_cases hns hf).1
  exact words_image.mpr ⟨f, x', hf, hx.alike hx', rfl⟩

theorem rest_of_image (hw : (image p).Words w) : ∃ x, w = '[' :: '[' :: x ∧ Rest x := by
  obtain ⟨f, x, hf, hx, rfl⟩ := words_image.mp hw
  obtain ⟨-, y, rfl, hy⟩ := imageFront_cases hns hf
  exact ⟨y ++ x, rfl, hx.behind hy⟩

omit hns in
theorem image_last (hw : (image p).Words w) (r : Text) : Border w r := by
  obtain ⟨f, x, -, hx, rfl⟩ := words_image.mp hw
  obtain ⟨a, rs, -, -, rfl⟩ := rest_iff.mp hx
  exact .inl ⟨']', by simp, by decide⟩

theorem impartial_image : Impartial (image p) where
  steady := (simple_image p).steady
  nullable := by rw [image, nullable_append]; exact Bool.and_false _
  anchorless := (simple_image p).anchorless
  beginsOff := by
    have hopen : (lit "[[").beginsOff marks = true := by decide
    simp only [image, imageFront, beginsOff_append, hopen, Bool.true_or]
  settlesOff := by
    have hclose : (lit "]]").settlesOff marks = true := by decide
    simp only [image, settlesOff_append, hclose, Bool.true_or]
  occurs {k k' w r t} hw h := by
    obtain ⟨w', r', rfl, hw', -⟩ := h.split (image_last hw r).parted
    exact ⟨w', r', rfl, words_image_alike hns hw hw'⟩
  settles hw h _ :=
    (words_image_alike hns (hw.words (simple_image p).anchorless) h).settles (simple_image p).anchorless rfl
      _ _
  unique hw hw' heq := by
    obtain ⟨x, rfl, hx⟩ := rest_of_image hns (hw.words (simple_image p).anchorless)
    obtain ⟨x', rfl, hx'⟩ := rest_of_image hns (hw'.words (simple_image p).anchorless)
    simp only [List.cons_append, List.cons.injEq, true_and] at heq
    rw [hx.append_inj hx' heq]

end

-- -----------------------------------------------------------------------------------------
-- Web addresses
-- -----------------------------------------------------------------------------------------

/-- The scheme of an address, in any letter case. -/
def scheme : Pattern := Fix.scheme.caseless

/-- The class of the characters of an address that stands alone. -/
def inAddress (c : Char) : Bool :=
  anyCase (fun c => !(Chars.isBlank c || "<>[]\x7b\x7d|\"".toList.contains c)) c

/-- An address between brackets, with the text that is shown for it. -/
def bracketed : Pattern := lit "[" ++ scheme ++ many (noneOf "]\n") ++ lit "]"

def standing : Pattern := scheme ++ many1 (char inAddress)

def address : Pattern := bracketed <|> standing

theorem externalLinks_eq : Region.externalLinks = address.compile := by
  have hopen : (lit "[").caseless = lit "[" := caseless_ofText (by decide)
  have hclose : (lit "]").caseless = lit "]" := caseless_ofText (by decide)
  have hline : (noneOf "]\n").caseless = noneOf "]\n" := caseless_noneOf (by decide)
  have hmany : ∀ q : Pattern, (many q).caseless = many q.caseless := fun _ => rfl
  have halt : ∀ q q' : Pattern, (q <|> q').caseless = (q.caseless <|> q'.caseless) := fun _ _ => rfl
  simp only [Region.externalLinks, halt, caseless_append, hmany, hopen, hclose, hline]
  rfl

/-- The colon of the scheme is in front of the slashes. -/
theorem scheme_cases (h : scheme.Words u) :
    Bare u ∧ ∃ n, u = n ++ "://".toList ∧ ∀ c ∈ n, c ∉ "[]:".toList := by
  have hclosed : CaseClosure "[]:".toList "[]:".toList := by decide
  have hcolon : (lit "://").caseless = lit "://" := caseless_ofText (by decide)
  have hscheme : scheme =
      (lit "http" ++ opt (lit "s") <|> lit "ftp" : Pattern).caseless ++ lit "://" := by
    rw [scheme, Fix.scheme, caseless_append, hcolon]
  obtain ⟨gs, hreads⟩ := h
  refine ⟨hreads.avoids (avoids_caseless Fix.caseClosure_corners (by decide)), ?_⟩
  rw [hscheme] at hreads
  obtain ⟨n, _, rfl, ⟨_, hn⟩, hmark⟩ := (words_append rfl rfl).mp ⟨gs, hreads⟩
  exact ⟨n, by rw [words_ofText.mp hmark], hn.avoids (avoids_caseless hclosed (by decide))⟩

theorem words_bracketed : bracketed.Words w ↔
    ∃ u v, scheme.Words u ∧ (∀ c ∈ v, c ∉ [']', '\n']) ∧ w = '[' :: (u ++ (v ++ [']'])) := by
  have hline : ∀ {v}, (many (noneOf "]\n")).Words v ↔ ∀ c ∈ v, c ∉ [']', '\n'] := by
    intro v
    have hall : (∀ c ∈ v, (!"]\n".toList.contains c) = true) ↔ ∀ c ∈ v, c ∉ [']', '\n'] := by simp
    rw [← hall]
    exact ⟨fun ⟨_, h⟩ => (forms_run.mp h).1, fun h => ⟨[], forms_run.mpr ⟨h, rfl⟩⟩⟩
  rw [bracketed, words_append rfl rfl]
  constructor
  · rintro ⟨_, _, rfl, h, hclose⟩
    obtain ⟨_, v, rfl, h, hv⟩ := (words_append rfl rfl).mp h
    obtain ⟨_, u, rfl, hopen, hu⟩ := (words_append rfl rfl).mp h
    rw [words_ofText.mp hopen, words_ofText.mp hclose]
    exact ⟨u, v, hu, hline.mp hv, by simp⟩
  · rintro ⟨u, v, hu, hv, rfl⟩
    have hfront : (lit "[" ++ scheme).Words (['['] ++ u) :=
      (words_append rfl rfl).mpr ⟨_, u, rfl, words_ofText.mpr rfl, hu⟩
    have hrun : (lit "[" ++ scheme ++ many (noneOf "]\n")).Words (['['] ++ u ++ v) :=
      (words_append rfl rfl).mpr ⟨_, v, rfl, hfront, hline.mpr hv⟩
    exact ⟨_, _, by simp, hrun, words_ofText.mpr rfl⟩

theorem words_standing : standing.Words w ↔
    ∃ u v, scheme.Words u ∧ v ≠ [] ∧ (∀ c ∈ v, inAddress c = true) ∧ w = u ++ v := by
  rw [standing, words_append rfl rfl]
  constructor
  · rintro ⟨u, v, rfl, hu, ⟨gs, hv⟩⟩
    obtain ⟨hne, hall, -⟩ := forms_run1.mp hv
    exact ⟨u, v, hu, hne, hall, rfl⟩
  · rintro ⟨u, v, hu, hne, hall, rfl⟩
    exact ⟨u, v, rfl, hu, [], forms_run1.mpr ⟨hne, hall, rfl⟩⟩

/-- An address that stands alone goes as far as it can. -/
theorem settles_standing : standing.Settles b w r ↔ ∃ u v, scheme.Words u ∧ v ≠ [] ∧
    (∀ c ∈ v, inAddress c = true) ∧ (∀ c ∈ r.head?, inAddress c = false) ∧ w = u ++ v := by
  constructor
  · rintro ⟨u, v, rfl, hu, hv, hend⟩
    obtain ⟨gs, hu⟩ := hu.exists_reads
    obtain ⟨gs', hv⟩ := hv.exists_reads
    obtain ⟨hne, hall, -⟩ := forms_run1.mp (hv.anywhere rfl none [])
    exact ⟨u, v, ⟨gs, hu.anywhere rfl none []⟩, hne, hall, hend, rfl⟩
  · rintro ⟨u, v, ⟨gs, hu⟩, hne, hall, hend, rfl⟩
    have hv : (many1 (char inAddress)).Forms v [] := forms_run1.mpr ⟨hne, hall, rfl⟩
    exact ⟨u, v, rfl, (hu.anywhere rfl b _).spells, (hv.anywhere rfl _ r).spells, hend⟩

theorem inAddress_marks : ∀ c ∈ marks, inAddress c = true := by decide +kernel

theorem words_bracketed_alike (hw : bracketed.Words w) (h : Alike k k' w w') : bracketed.Words w' := by
  obtain ⟨u, v, hu, hv, rfl⟩ := words_bracketed.mp hw
  have hbare : Bare ('[' :: u) := bare_cons.mpr ⟨by decide, (scheme_cases hu).1⟩
  obtain ⟨_, rfl, hrest⟩ := Alike.behind (u := '[' :: u) h hbare
  obtain ⟨v', _, rfl, hv', hclose⟩ := hrest.split (Border.parted (.inr (by simp; decide)))
  rw [hclose.eq_of_bare (by decide)]
  exact words_bracketed.mpr ⟨u, v', hu, hv'.forall_mem (by decide) hv, rfl⟩

/-- The two forms of an address begin differently. -/
theorem not_settles_both (hw : bracketed.Words w) (hw' : standing.Words w') : w ++ r ≠ w' ++ r' := by
  obtain ⟨u, v, -, -, rfl⟩ := words_bracketed.mp hw
  obtain ⟨u', v', hu', -, -, rfl⟩ := words_standing.mp hw'
  obtain ⟨-, n, rfl, hn⟩ := scheme_cases hu'
  intro heq
  cases n with
  | nil => cases heq
  | cons c n =>
    obtain ⟨rfl, -⟩ := List.cons.inj heq
    exact hn '[' List.mem_cons_self (by simp)

theorem scheme_inj (hu : scheme.Words u) (hu' : scheme.Words u') (h : u ++ r = u' ++ r') : u = u' := by
  obtain ⟨-, n, rfl, hn⟩ := scheme_cases hu
  obtain ⟨-, n', rfl, hn'⟩ := scheme_cases hu'
  have hcolon : ∀ {n : Text}, (∀ c ∈ n, c ∉ "[]:".toList) → ':' ∉ n := fun hn hc => hn ':' hc (by simp)
  simp only [List.append_assoc] at h
  rw [(append_cons_inj (hcolon hn) (hcolon hn') h).1]

theorem impartial_address : Impartial address where
  steady := by decide
  nullable := by decide
  anchorless := by decide
  beginsOff := by decide +kernel
  settlesOff := by decide +kernel
  occurs {k k' w r t} hw h := by
    rcases words_alt.mp hw with hw | hw
    · have hcut : Border w r := by
        obtain ⟨u, v, -, -, rfl⟩ := words_bracketed.mp hw
        exact .inl ⟨']', by simp [List.getLast?_cons], by decide⟩
      obtain ⟨w', r', rfl, hw', -⟩ := h.split hcut.parted
      exact ⟨w', r', rfl, words_alt.mpr (.inl (words_bracketed_alike hw hw'))⟩
    · obtain ⟨u, v, hu, hne, hall, rfl⟩ := words_standing.mp hw
      obtain ⟨c, v, rfl⟩ := List.exists_cons_of_ne_nil hne
      rw [List.append_assoc] at h
      obtain ⟨t, rfl, hrest⟩ := h.behind (scheme_cases hu).1
      obtain ⟨t, rfl⟩ := List.head?_eq_some_iff.mp hrest.head?_eq.symm
      have hword := words_standing.mpr ⟨u, [c], hu, List.cons_ne_nil c [],
        fun d hd => hall d (by simp_all), rfl⟩
      exact ⟨u ++ [c], t, by simp, words_alt.mpr (.inr hword)⟩
  settles {k k' b b' w w' r r'} hw h hr := by
    rcases hw with hw | hw
    · exact .inl ((words_bracketed_alike (hw.words rfl) h).settles rfl rfl b' r')
    · obtain ⟨u, v, hu, hne, hall, hend, rfl⟩ := settles_standing.mp hw
      obtain ⟨v', rfl, hv⟩ := h.behind (scheme_cases hu).1
      exact .inr (settles_standing.mpr ⟨u, v', hu, hv.ne_nil hne, hv.forall_mem inAddress_marks hall,
        hr.head?_eq ▸ hend, rfl⟩)
  unique {b b' w w' r r'} hw hw' heq := by
    rcases hw with hw | hw <;> rcases hw' with hw' | hw'
    · obtain ⟨u, v, hu, hv, rfl⟩ := words_bracketed.mp (hw.words rfl)
      obtain ⟨u', v', hu', hv', rfl⟩ := words_bracketed.mp (hw'.words rfl)
      simp only [List.cons_append, List.cons.injEq, true_and, List.append_assoc] at heq
      obtain rfl := scheme_inj hu hu' heq
      have hclose : ∀ {v : Text}, (∀ c ∈ v, c ∉ [']', '\n']) → ']' ∉ v := fun hv hc => hv ']' hc (by simp)
      rw [(append_cons_inj (hclose hv) (hclose hv') (List.append_cancel_left heq)).1]
    · exact absurd heq (not_settles_both (hw.words rfl) (hw'.words rfl))
    · exact absurd heq.symm (not_settles_both (hw'.words rfl) (hw.words rfl))
    · obtain ⟨u, v, hu, -, hv, hend, rfl⟩ := settles_standing.mp hw
      obtain ⟨u', v', hu', -, hv', hend', rfl⟩ := settles_standing.mp hw'
      simp only [List.append_assoc] at heq
      obtain rfl := scheme_inj hu hu' heq
      rw [(Text.append_inj_of_stop hv hend hv' hend' (List.append_cancel_left heq)).1]

end Mask

end Wikitext
