import Wikitext.Proofs.Xml.Document

/-!
# Rendered documents

Every text can be escaped (`says_escape`), and events that are sound can be written, as long as no
two texts meet: `Writable` and `Marked` say so of events in a row, piece by piece.
-/

namespace Wikitext

-- -----------------------------------------------------------------------------------------
-- Escaped texts
-- -----------------------------------------------------------------------------------------

theorem Text.eq_of_mem_utf8EncodeChar (hd : d.toNat < 128)
    (h : UInt8.ofNat d.toNat ∈ String.utf8EncodeChar c) : c = d := by
  have hbyte (n : Nat) (hn : UInt8.ofNat d.toNat = UInt8.ofNat n) : d.toNat = n % 256 := by
    have hn := congrArg UInt8.toNat hn
    simp only [UInt8.toNat_ofNat'] at hn
    omega
  have hval : c.val.toNat = d.toNat := by
    simp only [String.utf8EncodeChar] at h
    generalize c.val.toNat = v at h
    repeat' split at h
    all_goals simp only [List.mem_cons, List.not_mem_nil, or_false] at h
    · have := hbyte _ h
      omega
    · obtain h | h := h <;> have := hbyte _ h <;> omega
    · obtain h | h | h := h <;> have := hbyte _ h <;> omega
    · obtain h | h | h | h := h <;> have := hbyte _ h <;> omega
  exact Char.ext (UInt32.toNat_inj.mp hval)

/-- The byte of an ASCII character stands for that character only. -/
theorem Text.mem_of_mem_toBytes (hd : d.toNat < 128) (h : UInt8.ofNat d.toNat ∈ toBytes t) :
    d ∈ t := by
  obtain ⟨c, hc, hmem⟩ := List.mem_flatMap.mp h
  exact Text.eq_of_mem_utf8EncodeChar hd hmem ▸ hc

namespace Xml

/-- The text with references for the characters that begin markup. -/
def escape (t : Text) : Text :=
  t.flatMap fun c => if c = '&' then "&amp;".toList else if c = '<' then "&lt;".toList else [c]

theorem Spells.cons (hc : c ≠ '&') (h : Spells raw t) : Spells (c :: raw) (c :: t) := by
  cases h with
  | plain hand => exact .plain fun h => (List.mem_cons.mp h).elim (hc ·.symm) hand
  | @reference front _ _ _ _ hfront hin href h =>
    have hfront : '&' ∉ c :: front := fun h => (List.mem_cons.mp h).elim (hc ·.symm) hfront
    simpa using Spells.reference hfront hin href h

theorem spells_escape (t : Text) : Spells (escape t) t := by
  induction t with
  | nil => exact .plain List.not_mem_nil
  | cons c t ih =>
    rw [escape, List.flatMap_cons, ← escape]
    split
    · rename_i hc
      subst hc
      show Spells ([] ++ '&' :: ("amp".toList ++ ';' :: escape t)) ([] ++ '&' :: t)
      exact .reference List.not_mem_nil (by simp) (by decide) ih
    · split
      · rename_i hc
        subst hc
        show Spells ([] ++ '&' :: ("lt".toList ++ ';' :: escape t)) ([] ++ '<' :: t)
        exact .reference List.not_mem_nil (by simp) (by decide) ih
      · exact ih.cons ‹_›

theorem not_mem_escape (t : Text) : '<' ∉ escape t := by
  intro h
  obtain ⟨c, -, hc⟩ := List.mem_flatMap.mp h
  split at hc
  · exact absurd hc (by decide)
  · split at hc
    · exact absurd hc (by decide)
    · rename_i hlt
      exact hlt (List.mem_singleton.mp hc).symm

-- -----------------------------------------------------------------------------------------
-- Events written one behind the other
-- -----------------------------------------------------------------------------------------

/-- The events as they are written, without white space in end tags. -/
def flat (es : List Event) : Bytes := es.flatMap (Event.bytes [])

/-- Text may stand in front of these bytes. -/
def EndsText (t : Bytes) : Prop := ∀ b ∈ t.head?, b = 0x3C

/-- The events can be written in front of everything that ends a text. -/
def Writable (es : List Event) : Prop :=
  ∀ es' t, Written es' t → EndsText t → Written (es ++ es') (flat es ++ t)

/-- The events can be written in front of everything, and they end a text in front of them. -/
def Marked (es : List Event) : Prop :=
  ∀ es' t, Written es' t → Written (es ++ es') (flat es ++ t) ∧ EndsText (flat es ++ t)

theorem flat_append (es es' : List Event) : flat (es ++ es') = flat es ++ flat es' :=
  List.flatMap_append

theorem blank_nil : Blank [] := fun _ h => absurd h List.not_mem_nil

theorem writable_text (hne : raw ≠ []) (hraw : 0x3C ∉ raw) : Writable [.text raw] := by
  intro es' t hw ht
  have h := Written.cons (e := .text raw) ⟨hne, hraw⟩ blank_nil (fun _ => ht) hw
  simpa [flat] using h

theorem marked_singleton {e : Event} (he : e.Sound) (htext : e.isText = false) : Marked [e] := by
  intro es' t hw
  have h := Written.cons he blank_nil (by simp [htext]) hw
  obtain ⟨u, hu, -⟩ := markup?_written he blank_nil htext t
  have hflat : flat [e] = e.bytes [] := by simp [flat]
  refine ⟨by simpa [hflat] using h, ?_⟩
  rw [hflat, hu]
  rintro b ⟨⟩
  rfl

theorem Marked.writable (h : Marked es) : Writable es := fun _ _ hw _ => (h _ _ hw).1

theorem Writable.append (h : Writable es) (hm : Marked p) (h' : Writable es') :
    Writable (es ++ (p ++ es')) := by
  intro es'' t hw ht
  simp only [flat_append, List.append_assoc]
  obtain ⟨hp, hend⟩ := hm _ _ (h' _ _ hw ht)
  exact h _ _ hp hend

theorem writable_nil : Writable [] := fun _ _ hw _ => hw

-- -----------------------------------------------------------------------------------------
-- Elements
-- -----------------------------------------------------------------------------------------

/-- The tag of the name without attributes. -/
def plainTag (name : String) : Tag := ⟨ascii name, []⟩

/-- The tag of the name with one attribute. -/
def tagWith (name : String) (a : Attribute) : Tag :=
  ⟨ascii name, ascii " " ++ (a.key ++ equalsSign :: 0x22 :: (a.value ++ [0x22]))⟩

theorem plainTag_hasAttributes (h : IsName (ascii name)) : (plainTag name).HasAttributes [] :=
  ⟨h, .nil blank_nil, List.nodup_nil⟩

theorem tagWith_hasAttributes (h : IsName (ascii name)) {a : Attribute} (hkey : IsName a.key)
    (hvalue : 0x22 ∉ a.value) : (tagWith name a).HasAttributes [a] := by
  refine ⟨h, ?_, by simp⟩
  show AttributesWritten [a]
    (ascii " " ++ (a.key ++ ([] ++ equalsSign :: ([] ++ 0x22 :: (a.value ++ 0x22 :: [])))))
  exact .cons (by decide) (by decide) hkey blank_nil blank_nil (by decide) hvalue (.nil blank_nil)

/-- The element of the tag around other events. -/
def enclosed (tag : Tag) (inside : List Event) : List Event :=
  .start tag :: (inside ++ [.stop tag.name])

theorem marked_enclosed {tag : Tag} (htag : tag.HasAttributes as) (h : Writable inside) :
    Marked (enclosed tag inside) := by
  have hstart : Marked [.start tag] := marked_singleton ⟨as, htag⟩ rfl
  have hstop : Marked [.stop tag.name] := marked_singleton htag.name rfl
  intro es' t hw
  rw [enclosed, ← List.singleton_append, flat_append, flat_append, List.append_assoc,
    List.append_assoc, List.append_assoc, List.append_assoc]
  obtain ⟨hstop, hend⟩ := hstop _ _ hw
  exact hstart _ _ (h _ _ hstop hend)

theorem says_escape (t : Text) : Says (Text.toBytes (escape t)) t := ⟨_, rfl, spells_escape t⟩

/-- A text that says something has bytes. -/
theorem Says.ne_nil (h : Says raw t) (ht : t ≠ []) : raw ≠ [] := by
  rintro rfl
  obtain ⟨s, hs, hspells⟩ := h
  have hnil : some s = some [] := by
    rw [← Text.ofBytes?_toBytes s, ← hs]
    exact Text.ofBytes?_toBytes []
  have hread := unescape?_spells hspells
  rw [Option.some.inj hnil, unescape?_plain List.not_mem_nil] at hread
  exact ht (Option.some.inj hread).symm

theorem writable_escape (h : t ≠ []) : Writable [.text (Text.toBytes (escape t))] :=
  writable_text ((says_escape t).ne_nil h)
    fun hlt => not_mem_escape t (Text.mem_of_mem_toBytes (by decide) hlt)

/-- The element of the tag with a text in it, or without content if there is no text. -/
def textElement (tag : Tag) (t : Text) : List Event :=
  if t = [] then [.empty tag] else enclosed tag [.text (Text.toBytes (escape t))]

theorem marked_textElement {tag : Tag} (htag : tag.HasAttributes as) (t : Text) :
    Marked (textElement tag t) := by
  unfold textElement
  split
  · exact marked_singleton ⟨as, htag⟩ rfl
  · exact marked_enclosed htag (writable_escape ‹_›)

end Xml

end Wikitext
