import Wikitext.Proofs.Dump.Export
import Wikitext.Proofs.Dump.SiteInfo

/-!
# Reading exports

An export is read as what it was written from: `read_export`. Both loops pass over the fillers, and
part by part the state takes up what is written there; first the site information, then the pages.
-/

namespace Wikitext.Dump

open Xml (Event)

variable {strict : Bool}

theorem textOf_says (h : Xml.Says raw t) : textOf raw = .ok t := by
  obtain ⟨s, rfl, hs⟩ := h
  simp [textOf, Text.ofBytes?_toBytes, Xml.unescape?_spells hs]

theorem namespaceId?_ofInt (hleast : -2147483648 ≤ n) (hmost : n ≤ 2147483647) :
    namespaceId? (Text.ofInt n) = some n := Text.boundedNumber?_ofInt hleast hmost

theorem revisionId?_ofInt (hleast : -9223372036854775808 ≤ n) (hmost : n ≤ 9223372036854775807) :
    revisionId? (Text.ofInt n) = some n := Text.boundedNumber?_ofInt hleast hmost

-- -----------------------------------------------------------------------------------------
-- Parts in general
-- -----------------------------------------------------------------------------------------

namespace Loop

variable {σ β α : Type} {run : σ → List Event → β} {path : σ → Path} {within : σ → Element → σ}
  {readText : σ → Text → σ} {part : α → List Event → Prop} {s s' : σ}

theorem said (h : Loop strict run path within readText) {tag : Xml.Tag}
    (he : Element.ofTag strict tag = .ok e) (hquiet : e.isQuiet = true) (hsaid : Xml.Says raw t)
    (htext : readText (within s e) t = within s' e) (rest : List Event) :
    run s ([.start tag, .text raw, .stop tag.name] ++ rest) = run s' rest := by
  rw [List.cons_append, h.start _ _ _ he hquiet, List.cons_append, h.text _ _ hsaid, htext,
    List.singleton_append, h.stop _ _ _ _ hquiet]

theorem leaf (h : Loop strict run path within readText) (hl : Leaf name t es)
    (he : e.plainName? = some name) (hquiet : e.isQuiet = true)
    (hempty : Path.takesEmpty (e :: path s) = false) (hnil : t = [] → s' = s)
    (htext : t ≠ [] → readText (within s e) t = within s' e) (rest : List Event) :
    run s (es ++ rest) = run s' rest := by
  cases hl with
  | empty hname =>
    rw [hnil rfl, List.singleton_append,
      h.empty _ _ _ (Element.ofTag_plain he hname strict) hquiet hempty]
  | pair hname =>
    rw [hnil rfl, List.cons_append, h.start _ _ _ (Element.ofTag_plain he hname strict) hquiet,
      List.singleton_append, h.stop _ _ _ _ hquiet]
  | text hname hne hsaid =>
    exact h.said (Element.ofTag_plain he hname strict) hquiet hsaid (htext hne) rest

theorem enclosed (h : Loop strict run path within readText) (hw : Enclosed name inside es)
    (he : e.plainName? = some name) (hquiet : e.isQuiet = true)
    (hinside : ∀ rest, run (within s e) (inside ++ rest) = run (within s' e) rest)
    (rest : List Event) : run s (es ++ rest) = run s' rest := by
  obtain ⟨hname⟩ := hw
  rw [List.cons_append, h.start _ _ _ (Element.ofTag_plain he hname strict) hquiet,
    List.append_assoc, hinside, List.singleton_append, h.stop _ _ _ _ hquiet]

/-- Parts in a row do one after the other what each of them does. -/
theorem padded (h : Loop strict run path within readText) (hp : Padded part as es)
    (inv : σ → Prop) (set : σ → α → σ) (hinv : ∀ s a, inv s → inv (set s a))
    (hpath : ∀ s, inv s → (path s).takesText = false)
    (hpart : ∀ s a es rest, inv s → part a es → run s (es ++ rest) = run (set s a) rest)
    (hs : inv s) (rest : List Event) : run s (es ++ rest) = run (as.foldl set s) rest := by
  induction hp generalizing s with
  | nil hfiller => exact h.filler hfiller (hpath s hs) rest
  | cons hfiller ha _ ih =>
    rw [List.append_assoc, h.filler hfiller (hpath s hs), List.append_assoc, hpart s _ _ _ hs ha,
      ih (hinv s _ hs), List.foldl_cons]

theorem misc (h : Loop strict run path within readText) (hmisc : ∀ e ∈ es, IsMisc e)
    (hs : (path s).takesText = false) (rest : List Event) : run s (es ++ rest) = run s rest := by
  induction es with
  | nil => rfl
  | cons e es ih =>
    rw [List.forall_mem_cons] at hmisc
    cases e with
    | text raw =>
      obtain ⟨t, hsaid⟩ := Xml.Blank.said hmisc.1
      rw [List.cons_append, h.text _ _ hsaid, h.silent _ _ hs, ih hmisc.2]
    | comment | instruction => rw [List.cons_append, h.aside _ _ _ rfl, ih hmisc.2]
    | _ => exact hmisc.1.elim

end Loop

-- -----------------------------------------------------------------------------------------
-- The site
-- -----------------------------------------------------------------------------------------

theorem readSite_next (h : s.step strict e = .ok s') (hlast : s.isLast e = false) (sound : Bool)
    (rest : List Event) : readSite strict s sound (e :: rest) = readSite strict s' sound rest := by
  simp [readSite, h, hlast, bind, Except.bind]

theorem readSite_start {tag : Xml.Tag} (he : Element.ofTag strict tag = .ok e) (s : SiteState)
    (sound : Bool) (rest : List Event) : readSite strict s sound (.start tag :: rest) =
      readSite strict { s with path := e :: s.path } sound rest := by
  refine readSite_next ?_ rfl sound rest
  simp only [SiteState.step, he]
  rfl

theorem readSite_empty {tag : Xml.Tag} (he : Element.ofTag strict tag = .ok e) (s : SiteState)
    (sound : Bool) (rest : List Event) : readSite strict s sound (.empty tag :: rest) =
      readSite strict (s.readEmpty e) sound rest := by
  refine readSite_next ?_ rfl sound rest
  simp only [SiteState.step, he]
  rfl

theorem readSite_text (hsaid : Xml.Says raw t) (s : SiteState) (sound : Bool) (rest : List Event) :
    readSite strict s sound (.text raw :: rest) = readSite strict (s.readText t) sound rest := by
  refine readSite_next ?_ rfl sound rest
  simp only [SiteState.step, textOf_says hsaid]
  rfl

theorem readSite_stop {s : SiteState} (hpath : s.path = e :: path) (he : e ≠ .siteinfo)
    (name : Bytes) (sound : Bool) (rest : List Event) :
    readSite strict s sound (.stop name :: rest) = readSite strict { s with path } sound rest := by
  refine readSite_next ?_ ?_ sound rest
  · simp [SiteState.step, hpath]
  · simpa [SiteState.isLast, hpath] using he

theorem siteLoop (strict sound : Bool) :
    Loop strict (fun s => readSite strict s sound) SiteState.path
      (fun s e => { s with path := e :: s.path }) SiteState.readText where
  path_within _ _ := rfl
  silent s t h := by
    unfold SiteState.readText
    split <;> simp_all [Path.takesText]
  text s rest hsaid := readSite_text hsaid s sound rest
  aside s e rest h := by
    cases e with
    | comment | instruction | characterData => exact readSite_next rfl rfl sound rest
    | _ => cases h
  empty s e rest he hquiet _ := by
    rw [readSite_empty he]
    cases e <;> first | rfl | cases hquiet
  start s e rest he _ := readSite_start he s sound rest
  stop s e name rest hquiet := by
    refine readSite_stop rfl ?_ name sound rest
    rintro rfl
    cases hquiet

theorem ofTag_namespace (h : IsNamespaceTag tag n) (strict : Bool) :
    Element.ofTag strict tag = .ok (.namespaceEntry (Text.ofInt n)) := by
  obtain ⟨hname, -, -, as, value, hattributes, hmem, s, hvalue, hs⟩ := h
  have htext : Text.ofBytes? tag.name = some "namespace".toList := by
    rw [hname]
    exact Text.ofBytes?_toBytes _
  have hfind : as.find? (·.key == Xml.ascii "key") = some ⟨Xml.ascii "key", value⟩ :=
    hattributes.find?_key hmem
  have hkey : Xml.Attribute.text? ⟨Xml.ascii "key", value⟩ = some (Text.ofInt n) := by
    subst hvalue
    simp [Xml.Attribute.text?, Text.ofBytes?_toBytes, Xml.unescape?_spells hs]
  simp only [Element.ofTag, htext, String.ofList_toList]
  simp [Element.ofNamespace, Xml.attributes_written hattributes, hfind, hkey]

namespace SiteState

/-- The state behind a namespace. -/
def setEntry (s : SiteState) (entry : Int × Text) : SiteState :=
  { s with info := s.info.setNamespace entry.1 entry.2 }

/-- The state behind a part of the site information. -/
def setPart (s : SiteState) : SitePart → SiteState
  | .dbname t => if t = [] then s else { s with info := { s.info with database := t } }
  | .namespaces entries => { s with info := s.info.setNamespaces entries }

@[simp] theorem path_setPart (s : SiteState) (part : SitePart) : (s.setPart part).path = s.path := by
  unfold setPart
  repeat' split
  all_goals rfl

/-- Nothing is lost by an empty name of the database, since there is none at the beginning. -/
theorem setPart_dbname (path : Path) (t : Text) :
    setPart { path } (.dbname t) = { path, info := { database := t } } := by
  rw [setPart]
  split
  · rename_i ht
    rw [ht]
  · rfl

theorem foldl_setEntry (s : SiteState) (entries : List (Int × Text)) :
    entries.foldl setEntry s = { s with info := s.info.setNamespaces entries } := by
  induction entries generalizing s with
  | nil => rfl
  | cons entry entries ih => exact ih (s.setEntry entry)

end SiteState

theorem readSite_entry {s : SiteState} (hpath : s.path = [.namespaces, .siteinfo, .mediawiki])
    (h : EntryWritten entry es) (sound : Bool) (rest : List Event) :
    readSite strict s sound (es ++ rest) = readSite strict (s.setEntry entry) sound rest := by
  cases h with
  | empty htag =>
    rw [List.singleton_append, readSite_empty (ofTag_namespace htag strict)]
    simp only [SiteState.readEmpty, namespaceId?_ofInt htag.least htag.most, SiteState.setEntry]
  | named htag hsaid =>
    rw [List.cons_append, readSite_start (ofTag_namespace htag strict), List.cons_append,
      readSite_text hsaid, List.singleton_append]
    simp only [SiteState.readText, hpath, namespaceId?_ofInt htag.least htag.most]
    rw [readSite_stop rfl (by simp), ← hpath]
    rfl

theorem readSite_part {s : SiteState} (hpath : s.path = [.siteinfo, .mediawiki])
    {part : SitePart} (h : part.Written es) (sound : Bool) (rest : List Event) :
    readSite strict s sound (es ++ rest) = readSite strict (s.setPart part) sound rest := by
  cases h with
  | @dbname t es h =>
    refine (siteLoop strict sound).leaf h (e := .dbname) rfl rfl rfl ?_ ?_ rest
    · rintro rfl
      rfl
    · intro ht
      simp [SiteState.readText, SiteState.setPart, hpath, ht]
  | @namespaces entries inside es hentries h =>
    refine (siteLoop strict sound).enclosed h (e := .namespaces) rfl rfl ?_ rest
    intro rest
    have hread := (siteLoop strict sound).padded hentries
      (fun s => s.path = [.namespaces, .siteinfo, .mediawiki]) SiteState.setEntry
      (fun _ _ hs => hs) (fun _ hs => by rw [hs]; rfl)
      (fun _ _ _ rest hs he => readSite_entry hs he sound rest)
      (s := { s with path := .namespaces :: s.path }) (by rw [hpath]) rest
    rw [hread, SiteState.foldl_setEntry]
    rfl

/-- The site information is read up to its end. -/
theorem readSite_written {s : SiteState} (hpath : s.path = [.mediawiki]) (hinfo : s.info = {})
    (hsite : site.Ordered) (h : SiteWritten site es) (sound : Bool) (rest : List Event) :
    readSite strict s sound (es ++ rest) = .ok ({ path := [.mediawiki], info := site }, rest) := by
  obtain ⟨entries, inside, hperm, hparts, ⟨hname⟩⟩ := h
  obtain ⟨path, info⟩ := s
  cases hpath
  cases hinfo
  have hread := (siteLoop strict sound).padded hparts (fun s => s.path = [.siteinfo, .mediawiki])
    SiteState.setPart (fun s part hs => (s.path_setPart part).trans hs)
    (fun _ hs => by rw [hs]; rfl) (fun _ _ _ rest hs he => readSite_part hs he sound rest)
    (s := { path := [.siteinfo, .mediawiki] }) rfl
  have hset : [SitePart.dbname site.database, .namespaces entries].foldl SiteState.setPart
      { path := [.siteinfo, .mediawiki] } = { path := [.siteinfo, .mediawiki], info := site } := by
    rw [List.foldl_cons, SiteState.setPart_dbname, List.foldl_cons, List.foldl_nil,
      SiteState.setPart, SiteInfo.setNamespaces_eq hsite hperm]
  rw [List.cons_append, readSite_start (Element.ofTag_plain (e := .siteinfo) rfl hname strict),
    List.append_assoc, hread, hset]
  rfl

-- -----------------------------------------------------------------------------------------
-- Revisions
-- -----------------------------------------------------------------------------------------

theorem readPages_next (h : s.step strict e = .ok (s', none)) (sound : Bool) (rest : List Event) :
    readPages strict s sound (e :: rest) = readPages strict s' sound rest := by
  simp [readPages, h]

theorem readPages_start {tag : Xml.Tag} (he : Element.ofTag strict tag = .ok e) (s : PageState)
    (sound : Bool) (rest : List Event) : readPages strict s sound (.start tag :: rest) =
      readPages strict (s.openElement e) sound rest := by
  refine readPages_next ?_ sound rest
  simp only [PageState.step, he]
  rfl

theorem readPages_empty {tag : Xml.Tag} (he : Element.ofTag strict tag = .ok e) (s : PageState)
    (sound : Bool) (rest : List Event) : readPages strict s sound (.empty tag :: rest) =
      readPages strict (s.readEmpty e) sound rest := by
  refine readPages_next ?_ sound rest
  simp only [PageState.step, he]
  rfl

theorem readPages_text (hsaid : Xml.Says raw t) (s : PageState) (sound : Bool) (rest : List Event) :
    readPages strict s sound (.text raw :: rest) = readPages strict (s.readText t) sound rest := by
  refine readPages_next ?_ sound rest
  simp only [PageState.step, textOf_says hsaid]
  rfl

theorem readPages_stop {s : PageState} (hpath : s.path = e :: path) (hrevision : e ≠ .revision)
    (hpage : e ≠ .page) (name : Bytes) (sound : Bool) (rest : List Event) :
    readPages strict s sound (.stop name :: rest) = readPages strict { s with path } sound rest := by
  refine readPages_next ?_ sound rest
  cases e <;> simp_all [PageState.step, pure, Except.pure]

theorem pageLoop (strict sound : Bool) :
    Loop strict (fun s => readPages strict s sound) PageState.path
      (fun s e => { s with path := e :: s.path }) PageState.readText where
  path_within _ _ := rfl
  silent s t h := by
    unfold PageState.readText
    split <;> simp_all [Path.takesText]
  text s rest hsaid := readPages_text hsaid s sound rest
  aside s e rest h := by
    cases e with
    | comment | instruction | characterData => exact readPages_next rfl sound rest
    | _ => cases h
  empty s e rest he _ hempty := by
    rw [readPages_empty he]
    unfold PageState.readEmpty
    split <;> simp_all [Path.takesEmpty]
  start s e rest he hquiet := by
    rw [readPages_start he]
    cases e <;> first | rfl | cases hquiet
  stop s e name rest hquiet := by
    refine readPages_stop rfl ?_ ?_ name sound rest
    all_goals
      rintro rfl
      cases hquiet

/-- What is known of a revision behind one of its parts. -/
def Draft.fill (d : Draft) : Field → Draft
  | .id n => { d with id := some n }
  | .timestamp t => { d with timestamp := some t }
  | .comment t => { d with comment := some t }
  | .minor => { d with minor := true }
  | .text t => { d with text := some t }

/-- Of every kind there is one field in a revision. -/
theorem Draft.fill_fill (h : f ∈ fields r) (h' : f' ∈ fields r) (d : Draft) :
    (d.fill f).fill f' = (d.fill f').fill f := by
  cases f <;> cases f' <;> first | rfl | simp_all [fields]

theorem Draft.revision?_fields {fs : List Field} (h : fs.Perm (fields r)) :
    (fs.foldl Draft.fill {}).revision? = some r := by
  have hsame : fs.foldl Draft.fill {} = (fields r).foldl Draft.fill {} :=
    h.foldl_eq' (fun f hf f' hf' d => Draft.fill_fill (h.mem_iff.mp hf) (h.mem_iff.mp hf') d) {}
  rw [hsame]
  obtain ⟨id, timestamp, text, comment, minor⟩ := r
  cases comment <;> cases minor <;> rfl

theorem readPages_field {s : PageState} (hpath : s.path = [.revision, .page, .mediawiki])
    {f : Field} (h : f.Written es) (sound : Bool) (rest : List Event) :
    readPages strict s sound (es ++ rest) =
      readPages strict (s.setDraft fun d => d.fill f) sound rest := by
  have hloop := pageLoop strict sound
  cases h with
  | @id n _ hleast hmost h =>
    refine hloop.leaf h (e := .id) rfl rfl (by rw [hpath]; rfl)
      (absurd · (Text.ofInt_ne_nil n)) (fun _ => ?_) rest
    simp [PageState.readText, hpath, Text.trim_ofInt, revisionId?_ofInt hleast hmost,
      PageState.setDraft, Draft.fill]
  | timestamp ht hy h =>
    refine hloop.leaf h (e := .timestamp) rfl rfl (by rw [hpath]; rfl)
      (absurd · (Timestamp.text_ne_nil _)) (fun _ => ?_) rest
    simp [PageState.readText, hpath, Timestamp.read?_text ht hy, PageState.setDraft, Draft.fill]
  | comment hne h =>
    refine hloop.leaf h (e := .comment) rfl rfl (by rw [hpath]; rfl) (absurd · hne)
      (fun _ => ?_) rest
    simp [PageState.readText, hpath, PageState.setDraft, Draft.fill]
  | minor hname =>
    rw [List.singleton_append,
      readPages_empty (Element.ofTag_plain (e := .minor) rfl hname strict)]
    simp [PageState.readEmpty, hpath, Draft.fill]
  | @text _ _ _ tag hname hattributes hdeleted _ hsaid =>
    have he : Element.ofTag strict tag = .ok (.text false) :=
      Element.ofTag_text hname hattributes (by simpa using hdeleted) strict
    refine hloop.said he rfl hsaid ?_ rest
    simp [PageState.readText, hpath, PageState.setDraft, Draft.fill]
  | @emptyText _ tag hname hattributes hdeleted =>
    have he : Element.ofTag strict tag = .ok (.text false) :=
      Element.ofTag_text hname hattributes (by simpa using hdeleted) strict
    rw [List.singleton_append, readPages_empty he]
    simp [PageState.readEmpty, hpath, Draft.fill]
  | @deletedText _ tag hname hattributes hdeleted =>
    have he : Element.ofTag strict tag = .ok (.text true) :=
      Element.ofTag_text hname hattributes (by simpa using hdeleted) strict
    rw [List.singleton_append, readPages_empty he]
    simp [PageState.readEmpty, hpath, Draft.fill]

theorem PageState.foldl_setDraft (s : PageState) (fs : List Field) :
    fs.foldl (fun s f => s.setDraft fun d => d.fill f) s =
      s.setDraft fun d => fs.foldl Draft.fill d := by
  induction fs generalizing s with
  | nil => simp [setDraft]
  | cons f fs ih =>
    rw [List.foldl_cons, ih]
    simp [setDraft, Function.comp_def]

-- -----------------------------------------------------------------------------------------
-- Pages
-- -----------------------------------------------------------------------------------------

/-- The state behind a part of a page. -/
def PageState.setPart (s : PageState) : PagePart → PageState
  | .title t => if t = [] then s else { s with page := { s.page with title := normalTitle t } }
  | .ns n => { s with page := { s.page with namespaceId := n } }
  | .id _ => s
  | .revision r => { s with page := { s.page with revision := some r } }

@[simp] theorem PageState.path_setPart (s : PageState) (part : PagePart) :
    (s.setPart part).path = s.path := by
  unfold setPart
  repeat' split
  all_goals rfl

@[simp] theorem PageState.draft_setPart (s : PageState) (part : PagePart) :
    (s.setPart part).draft = s.draft := by
  unfold setPart
  repeat' split
  all_goals rfl

theorem readPages_revision {s : PageState} (hpath : s.path = [.page, .mediawiki])
    (hdraft : s.draft = none) {fs : List Field} (hperm : fs.Perm (fields r))
    (hfields : Padded Field.Written fs inside) (h : Enclosed "revision" inside es) (sound : Bool)
    (rest : List Event) : readPages strict s sound (es ++ rest) =
      readPages strict { s with page := { s.page with revision := some r } } sound rest := by
  obtain ⟨hname⟩ := h
  have hread := (pageLoop strict sound).padded hfields
    (fun s => s.path = [.revision, .page, .mediawiki]) (fun s f => s.setDraft fun d => d.fill f)
    (fun _ _ hs => hs) (fun _ hs => by rw [hs]; rfl)
    (fun _ _ _ rest hs hf => readPages_field hs hf sound rest)
    (s := s.openElement .revision) (by simp [PageState.openElement, hpath])
  rw [List.cons_append, readPages_start (Element.ofTag_plain (e := .revision) rfl hname strict),
    List.append_assoc, hread, PageState.foldl_setDraft, List.singleton_append]
  refine readPages_next ?_ sound rest
  simp [PageState.step, PageState.setDraft, PageState.openElement, PageState.closeRevision,
    Draft.revision?_fields hperm, hdraft, bind, Except.bind, pure, Except.pure]

theorem readPages_part {s : PageState} (hpath : s.path = [.page, .mediawiki])
    (hdraft : s.draft = none) {part : PagePart} (h : part.Written es) (sound : Bool)
    (rest : List Event) :
    readPages strict s sound (es ++ rest) = readPages strict (s.setPart part) sound rest := by
  have hloop := pageLoop strict sound
  cases h with
  | title h =>
    refine hloop.leaf h (e := .title) rfl rfl (by rw [hpath]; rfl) ?_ (fun ht => ?_) rest
    · rintro rfl
      rfl
    · simp [PageState.readText, PageState.setPart, hpath, ht]
  | @ns n _ hleast hmost h =>
    refine hloop.leaf h (e := .ns) rfl rfl (by rw [hpath]; rfl)
      (absurd · (Text.ofInt_ne_nil n)) (fun _ => ?_) rest
    simp [PageState.readText, PageState.setPart, hpath, Text.trim_ofInt,
      namespaceId?_ofInt hleast hmost]
  | id h =>
    refine hloop.leaf h (e := .id) rfl rfl (by rw [hpath]; rfl) (fun _ => rfl)
      (fun _ => ?_) rest
    simp [PageState.readText, hpath]
  | revision hperm hfields h => exact readPages_revision hpath hdraft hperm hfields h sound rest

theorem PageState.foldl_revisions (s : PageState) (rs : List Revision) :
    (rs.map PagePart.revision).foldl setPart s =
      { s with page := { s.page with revision := rs.getLast?.or s.page.revision } } := by
  induction rs generalizing s with
  | nil => rfl
  | cons r rs ih =>
    rw [List.map_cons, List.foldl_cons, ih]
    cases h : rs.getLast? <;> simp [setPart, List.getLast?_cons, h]

theorem PageState.foldl_parts (path : Path) (h : History) :
    h.parts.foldl setPart { path, started := true } = { path, started := true, page := h.page } := by
  have htitle : setPart { path, started := true } (.title h.title) =
      { path, started := true, page := { title := normalTitle h.title } } := by
    rw [setPart]
    split
    · rename_i ht
      rw [ht]
      rfl
    · rfl
  have hid (s : PageState) : (h.id.toList.map PagePart.id).foldl setPart s = s := by
    cases h.id <;> rfl
  rw [History.parts, List.foldl_cons, htitle, List.foldl_cons, List.foldl_append, hid,
    foldl_revisions]
  simp [setPart, History.page]

/-- A page is delivered with its end, and nothing of it is left over. -/
theorem readPages_history {h : History} (hw : h.Written es) (sound : Bool) (rest : List Event) :
    readPages strict { path := [.mediawiki] } sound (es ++ rest) =
      (h.page :: (readPages strict { path := [.mediawiki] } sound rest).1,
        (readPages strict { path := [.mediawiki] } sound rest).2) := by
  obtain ⟨inside, hparts, ⟨hname⟩⟩ := hw
  have hread := (pageLoop strict sound).padded hparts
    (fun s => s.path = [.page, .mediawiki] ∧ s.draft = none) PageState.setPart
    (fun s part hs => by rwa [PageState.path_setPart, PageState.draft_setPart])
    (fun _ hs => by rw [hs.1]; rfl)
    (fun _ _ _ rest hs hpart => readPages_part hs.1 hs.2 hpart sound rest)
    (s := { path := [.page, .mediawiki], started := true }) ⟨rfl, rfl⟩
  rw [List.cons_append, readPages_start (Element.ofTag_plain (e := .page) rfl hname strict),
    List.append_assoc]
  simp only [PageState.openElement, hread, PageState.foldl_parts, List.singleton_append]
  simp [readPages, PageState.step, pure, Except.pure]

theorem readPages_histories {histories : List History} (h : Padded History.Written histories es)
    (sound : Bool) (rest : List Event) :
    readPages strict { path := [.mediawiki] } sound (es ++ rest) =
      (histories.map History.page ++ (readPages strict { path := [.mediawiki] } sound rest).1,
        (readPages strict { path := [.mediawiki] } sound rest).2) := by
  have hloop := pageLoop strict sound
  induction h with
  | nil hfiller => exact hloop.filler hfiller rfl rest
  | cons hfiller hw _ ih =>
    rw [List.append_assoc, hloop.filler hfiller rfl, List.append_assoc, readPages_history hw, ih]
    rfl

-- -----------------------------------------------------------------------------------------
-- Whole exports
-- -----------------------------------------------------------------------------------------

/-- Up to the pages, with the outermost element open. -/
theorem readSite_front (hfront : ∀ e ∈ front, IsMisc e) {tag : Xml.Tag}
    (hname : tag.name = Xml.ascii "mediawiki") (hfiller : Filler filler) (hsite : site.Ordered)
    (hinfo : SiteWritten site info) (sound : Bool) (rest : List Event) :
    readSite strict {} sound (front ++ .start tag :: (filler ++ (info ++ rest))) =
      .ok ({ path := [.mediawiki], info := site }, rest) := by
  rw [(siteLoop strict sound).misc hfront rfl,
    readSite_start (Element.ofTag_plain (e := .mediawiki) rfl hname strict),
    (siteLoop strict sound).filler hfiller rfl, readSite_written rfl rfl hsite hinfo]

/-- An export is read as the site information and the pages that it was written from, each page with
its last revision, and nothing stops the reading. -/
theorem read_export (h : Export site histories es) (hsite : site.Ordered)
    (hw : Xml.Written es bytes) (strict : Bool) :
    read strict bytes =
      .ok { siteInfo := site, pages := histories.map History.page, stoppedBy := none } := by
  have hevents : Xml.events bytes = ⟨es, true⟩ :=
    Xml.events_written hw (h.balanced []) (h.not_byteOrderMark hw)
  cases h with
  | @intro front filler info rest root back hfront hfiller hinfo hpages hroot hback =>
    obtain @⟨tag, hname⟩ := hroot
    have hread : readSite strict {} true (front ++ ((.start tag ::
        (filler ++ (info ++ rest) ++ [.stop tag.name])) ++ back)) =
        .ok ({ path := [.mediawiki], info := site }, rest ++ .stop tag.name :: back) := by
      simpa using readSite_front hfront hname hfiller hsite hinfo true (rest ++ .stop tag.name :: back)
    have hend : readPages strict { path := [.mediawiki] } true (.stop tag.name :: back) =
        ([], none) := by
      have hmisc := (pageLoop strict true).misc (s := { path := [] }) hback rfl []
      rw [List.append_nil] at hmisc
      rw [readPages_stop rfl (by simp) (by simp), hmisc]
      rfl
    simp only [read, hevents, hread, bind, Except.bind, readPages_histories hpages, hend,
      List.append_nil]
    rfl

end Wikitext.Dump
