import Wikitext.Proofs.Text.Basic
import Wikitext.Xml.Event

/-!
# Written tags

How the name and the attributes of a tag are written, with white space as one likes, and that they
are read as they are written: the attributes one by one (`attributes_written`), the tag up to its
end (`cutTag?_passed`) and divided again into its name and what is behind it (`ofInside_written`).
-/

namespace Wikitext.Xml

open Text (takeWhile_append_stop dropWhile_append_stop)

/-- White space between the parts of a tag. -/
def Blank (space : Bytes) : Prop := ∀ b ∈ space, isSpace b = true

instance : Decidable (Blank space) := List.decidableBAll (fun b => isSpace b = true) space

/-- Bytes with a meaning of their own in markup: white space and ``! " & ' / < = > ?``. -/
def reserved : Bytes :=
  [0x09, 0x0A, 0x0D, 0x20, 0x21, 0x22, 0x26, 0x27, 0x2F, 0x3C, 0x3D, 0x3E, 0x3F]

/-- The name of an element or an attribute. -/
def IsName (name : Bytes) : Prop := name ≠ [] ∧ ∀ b ∈ name, b ∉ reserved

-- by the bytes of the name; there are other instances, which try all bytes
instance : Decidable (IsName name) :=
  haveI : Decidable (∀ b ∈ name, b ∉ reserved) := List.decidableBAll (· ∉ reserved) name
  inferInstanceAs (Decidable (name ≠ [] ∧ ∀ b ∈ name, b ∉ reserved))

/-- Attributes, each with white space in front and a value in quotes. -/
inductive AttributesWritten : List Attribute → Bytes → Prop
  | nil : Blank space → AttributesWritten [] space
  | cons {a : Attribute} {space before after t : Bytes} : space ≠ [] → Blank space →
      IsName a.key → Blank before → Blank after → quote ∈ quotes → quote ∉ a.value →
      AttributesWritten as t →
      AttributesWritten (a :: as)
        (space ++ (a.key ++ (before ++ equalsSign :: (after ++ quote :: (a.value ++ quote :: t)))))

/-- The name of the tag is one, and behind it there are attributes, each with a key of its own. -/
structure Tag.HasAttributes (tag : Tag) (as : List Attribute) : Prop where
  name : IsName tag.name
  written : AttributesWritten as tag.inside
  nodup : (as.map (·.key)).Nodup

-- -----------------------------------------------------------------------------------------
-- White space and names
-- -----------------------------------------------------------------------------------------

theorem mem_reserved_of_isSpace (h : isSpace b = true) : b ∈ reserved := by
  simp only [isSpace, Bool.or_eq_true, beq_iff_eq] at h
  obtain ((rfl | rfl) | rfl) | rfl := h <;> decide

theorem isSpace_of_not_reserved (h : b ∉ reserved) : isSpace b = false :=
  Bool.eq_false_iff.mpr fun hb => h (mem_reserved_of_isSpace hb)

theorem IsName.isSpace (h : IsName name) (hb : b ∈ name) : isSpace b = false :=
  isSpace_of_not_reserved (h.2 b hb)

theorem IsName.head (h : IsName name) (t : Bytes) : ∀ b ∈ (name ++ t).head?, b ∉ reserved := by
  obtain ⟨b, k, rfl⟩ := List.exists_cons_of_ne_nil h.1
  rintro c ⟨⟩
  exact h.2 b List.mem_cons_self

theorem mem_reserved_of_mem_quotes (h : quote ∈ quotes) : quote ∈ reserved := by
  simp only [quotes, List.mem_cons, List.not_mem_nil, or_false] at h
  obtain rfl | rfl := h <;> decide

theorem isSpace_of_mem_quotes (h : quote ∈ quotes) : isSpace quote = false := by
  simp only [quotes, List.mem_cons, List.not_mem_nil, or_false] at h
  obtain rfl | rfl := h <;> decide

-- -----------------------------------------------------------------------------------------
-- Attributes one by one
-- -----------------------------------------------------------------------------------------

theorem attribute?_written {a : Attribute} (hkey : IsName a.key) (hbefore : Blank before)
    (hafter : Blank after) (hquote : quote ∈ quotes) (hvalue : quote ∉ a.value) (t : Bytes) :
    attribute? (a.key ++ (before ++ equalsSign :: (after ++ quote :: (a.value ++ quote :: t)))) =
      some (a, t) := by
  obtain ⟨key, value⟩ := a
  obtain ⟨b, k, rfl⟩ := List.exists_cons_of_ne_nil hkey.1
  have hk : (k ++ (before ++ equalsSign :: (after ++ quote :: (value ++ quote :: t)))).takeWhile
      (fun b => !(b == equalsSign || isSpace b)) = k := by
    refine takeWhile_append_stop (fun x hx => ?_) fun x hx => ?_
    · have hx := hkey.2 x (List.mem_cons_of_mem b hx)
      have hne : x ≠ equalsSign := fun h => hx (h ▸ by decide)
      simp [hne, isSpace_of_not_reserved hx]
    · cases before with
      | nil =>
        cases hx
        rfl
      | cons y before =>
        cases hx
        simp [hbefore x List.mem_cons_self]
  have hsign : ∀ b ∈ (equalsSign :: (after ++ quote :: (value ++ quote :: t))).head?,
      isSpace b = false := by
    rintro b ⟨⟩
    decide
  have hopen : ∀ b ∈ (quote :: (value ++ quote :: t)).head?, isSpace b = false := by
    rintro b ⟨⟩
    exact isSpace_of_mem_quotes hquote
  have hclose : (value ++ quote :: t).takeWhile (· != quote) = value := by
    refine takeWhile_append_stop (fun x hx => ?_) ?_
    · have hne : x ≠ quote := fun h => hvalue (h ▸ hx)
      simp [hne]
    · rintro x ⟨⟩
      simp
  simp only [List.cons_append, attribute?, hk, List.length_cons, Nat.add_sub_cancel,
    List.drop_left, dropWhile_append_stop hbefore hsign, beq_self_eq_true, ↓reduceIte,
    dropWhile_append_stop hafter hopen, hclose, List.contains_iff_mem, hquote]

theorem attributesFrom_written (h : AttributesWritten as t) (hn : as.length ≤ n)
    (hseen : ∀ a ∈ as, a.key ∉ seen) (hnodup : (as.map (·.key)).Nodup) :
    attributesFrom n seen t = ⟨as, true⟩ := by
  induction h generalizing n seen with
  | nil hspace =>
    cases n with
    | zero => simpa [attributesFrom, Blank] using hspace
    | succ n => simp [attributesFrom, List.dropWhile_eq_nil_iff.mpr hspace]
  | @cons quote as a space before after t hne hspace hkey hbefore hafter hquote hvalue _ ih =>
    obtain ⟨n, rfl⟩ : ∃ m, n = m + 1 := ⟨n - 1, by simp at hn; omega⟩
    simp only [List.map_cons, List.nodup_cons, List.mem_map, not_exists, not_and] at hnodup
    have hdrop : ∀ b ∈ (a.key ++ (before ++ equalsSign ::
        (after ++ quote :: (a.value ++ quote :: t)))).head?, isSpace b = false :=
      fun b hb => isSpace_of_not_reserved (hkey.head _ b hb)
    have hread := attribute?_written hkey hbefore hafter hquote hvalue t
    have hothers : attributesFrom n (a.key :: seen) t = ⟨as, true⟩ := by
      refine ih (by simpa using hn) (fun x hx => ?_) hnodup.2
      rw [List.mem_cons, not_or]
      exact ⟨hnodup.1 x hx, hseen x (List.mem_cons_of_mem a hx)⟩
    rw [attributesFrom, dropWhile_append_stop hspace hdrop]
    simp [hread, hseen a List.mem_cons_self, hothers]

theorem AttributesWritten.length_le (h : AttributesWritten as t) : as.length ≤ t.length := by
  induction h with
  | nil => simp
  | cons => simp; omega

theorem attributes_written {tag : Tag} (h : tag.HasAttributes as) :
    attributes tag.inside = ⟨as, true⟩ :=
  attributesFrom_written h.written h.written.length_le (fun _ _ => List.not_mem_nil) h.nodup

theorem Tag.HasAttributes.find?_key {tag : Tag} (h : tag.HasAttributes as) (ha : a ∈ as) :
    as.find? (·.key == a.key) = some a := by
  have hnodup := h.nodup
  clear h
  induction as with
  | nil => cases ha
  | cons b as ih =>
    simp only [List.map_cons, List.nodup_cons, List.mem_map, not_exists, not_and] at hnodup
    obtain rfl | ha := List.mem_cons.mp ha
    · simp
    · have hne : b.key ≠ a.key := fun heq => hnodup.1 a ha heq.symm
      rw [List.find?_cons_of_neg (by simpa using hne)]
      exact ih ha hnodup.2

-- -----------------------------------------------------------------------------------------
-- The end of a tag
-- -----------------------------------------------------------------------------------------

/-- No tag ends within these bytes. -/
def Passed (t : Bytes) : Prop :=
  ∀ rest, cutTag? none (t ++ rest) = (cutTag? none rest).map fun (u, v) => (t ++ u, v)

theorem Passed.append (ht : Passed t) (hu : Passed u) : Passed (t ++ u) := by
  intro rest
  rw [List.append_assoc, ht, hu, Option.map_map]
  congr 1
  funext p
  simp

theorem passed_nil : Passed [] := by
  intro rest
  simp

theorem passed_cons (hend : b ≠ 0x3E) (hquote : b ∉ quotes) (h : Passed t) : Passed (b :: t) := by
  intro rest
  simp [cutTag?, hend, hquote, h rest, Function.comp_def]

theorem passed_of_plain (hend : 0x3E ∉ t) (hquote : ∀ b ∈ t, b ∉ quotes) : Passed t := by
  induction t with
  | nil => exact passed_nil
  | cons b t ih =>
    rw [List.mem_cons, not_or] at hend
    rw [List.forall_mem_cons] at hquote
    exact passed_cons (Ne.symm hend.1) hquote.1 (ih hend.2 hquote.2)

theorem IsName.passed (h : IsName name) : Passed name :=
  passed_of_plain (fun hb => h.2 _ hb (by decide)) fun b hb hq => h.2 b hb (mem_reserved_of_mem_quotes hq)

theorem Blank.passed (h : Blank space) : Passed space :=
  passed_of_plain (fun hb => absurd (h _ hb) (by decide)) fun b hb hq =>
    Bool.false_ne_true ((isSpace_of_mem_quotes hq).symm.trans (h b hb))

theorem cutTag?_quoted (hv : quote ∉ value) (rest : Bytes) :
    cutTag? (some quote) (value ++ quote :: rest) =
      (cutTag? none rest).map fun (u, v) => (value ++ quote :: u, v) := by
  induction value with
  | nil => simp [cutTag?]
  | cons b value ih =>
    rw [List.mem_cons, not_or] at hv
    simp [cutTag?, Ne.symm hv.1, ih hv.2, Function.comp_def]

theorem passed_quoted (hq : quote ∈ quotes) (hv : quote ∉ value) :
    Passed (quote :: (value ++ [quote])) := by
  intro rest
  have hend : quote ≠ 0x3E := by
    rintro rfl
    exact absurd hq (by decide)
  simp [cutTag?, hend, hq, cutTag?_quoted hv, Function.comp_def]

theorem AttributesWritten.passed (h : AttributesWritten as t) : Passed t := by
  induction h with
  | nil hspace => exact hspace.passed
  | @cons quote as a space before after t _ hspace hkey hbefore hafter hquote hvalue _ ih =>
    have hsign : Passed [equalsSign] := passed_cons (by decide) (by decide) passed_nil
    have h := (hspace.passed.append (hkey.passed.append (hbefore.passed.append (hsign.append
      (hafter.passed.append ((passed_quoted hquote hvalue).append ih))))))
    simpa using h

/-- What is written behind the name of a tag begins with white space. -/
theorem AttributesWritten.head (h : AttributesWritten as t) : ∀ b ∈ t.head?, isSpace b = true := by
  intro b hb
  cases h with
  | nil hspace => exact hspace b (List.mem_of_mem_head? hb)
  | @cons quote as a space before after t hne hspace =>
    obtain ⟨c, space, rfl⟩ := List.exists_cons_of_ne_nil hne
    cases hb
    exact hspace b List.mem_cons_self

/-- No tag with attributes could be taken for an empty element. -/
theorem AttributesWritten.getLast (h : AttributesWritten as t) : ∀ b ∈ t.getLast?, b ≠ 0x2F := by
  induction h with
  | nil hspace =>
    rintro b hb rfl
    exact absurd (hspace _ (List.mem_of_mem_getLast? hb)) (by decide)
  | @cons quote as a space before after t _ _ _ _ _ hquote _ _ ih =>
    intro b hb
    have hb : t.getLast?.getD quote = b := by simpa [List.getLast?_cons] using hb
    cases ht : t.getLast? with
    | none =>
      rw [ht] at hb
      rintro rfl
      cases hb
      exact absurd hquote (by decide)
    | some c =>
      rw [ht] at hb
      exact ih b (hb ▸ ht)

theorem Tag.HasAttributes.passed {tag : Tag} (h : tag.HasAttributes as) :
    Passed (tag.name ++ tag.inside) :=
  h.name.passed.append h.written.passed

theorem cutTag?_passed (h : Passed t) (rest : Bytes) : cutTag? none (t ++ 0x3E :: rest) = some (t, rest) := by
  simp [h (0x3E :: rest), cutTag?]

theorem ofInside_written {tag : Tag} (h : tag.HasAttributes as) :
    Tag.ofInside (tag.name ++ tag.inside) = tag := by
  have hname : (tag.name ++ tag.inside).takeWhile (!isSpace ·) = tag.name :=
    takeWhile_append_stop (fun b hb => by simp [h.name.isSpace hb]) fun b hb => by
      simp [h.written.head b hb]
  simp [Tag.ofInside, hname]

end Wikitext.Xml
