import Wikitext.Xml.Attribute

/-!
# Events

A document is read as a sequence of events: tags, text, and what the reader of
an export passes over. Every end tag has to name the element that was opened
last. The sequence ends with the document or at the first fault; elements may
still be open then.
-/

namespace Wikitext.Xml

/-- A start tag or an empty element. -/
structure Tag where
  name : Bytes
  /-- The text of the tag behind its name. -/
  inside : Bytes
  deriving DecidableEq, Repr

inductive Event
  | start (tag : Tag)
  | empty (tag : Tag)
  | stop (name : Bytes)
  | text (raw : Bytes)
  | characterData (raw : Bytes)
  | comment (raw : Bytes)
  | instruction (raw : Bytes)
  | docType (raw : Bytes)
  deriving DecidableEq, Repr

/-- The events of a document, and whether it has no fault after them. -/
structure Events where
  events : List Event
  sound : Bool
  deriving DecidableEq, Repr

-- -----------------------------------------------------------------------------------------
-- Ends of markup
-- -----------------------------------------------------------------------------------------

/-- The bytes before the first `mark` and those after it. -/
def cutAt? (mark : Bytes) : Bytes → Option (Bytes × Bytes)
  | [] => none
  | b :: t =>
    if mark.isPrefixOf (b :: t) then some ([], (b :: t).drop mark.length)
    else (cutAt? mark t).map fun (before, after) => (b :: before, after)

/-- Up to the first `>` that is not in quotes. -/
def cutTag? (quote : Option UInt8) : Bytes → Option (Bytes × Bytes)
  | [] => none
  | b :: t =>
    if b == 0x3E && quote.isNone then some ([], t)
    else
      let quote := match quote with
        | some q => if b == q then none else some q
        | none => if quotes.contains b then some b else none
      (cutTag? quote t).map fun (before, after) => (b :: before, after)

/-- Up to the `>` that has no `<` before it to pair with. -/
def cutDeclaration? (depth : Nat) : Bytes → Option (Bytes × Bytes)
  | [] => none
  | b :: t =>
    if b == 0x3E && depth == 0 then some ([], t)
    else
      let depth := if b == 0x3C then depth + 1 else if b == 0x3E then depth - 1 else depth
      (cutDeclaration? depth t).map fun (before, after) => (b :: before, after)

theorem length_cutAt? {mark t before after : Bytes} (h : cutAt? mark t = some (before, after)) :
    after.length ≤ t.length := by
  induction t generalizing before with
  | nil => simp [cutAt?] at h
  | cons b t ih =>
    simp only [cutAt?] at h
    split at h
    · simp only [Option.some.injEq, Prod.mk.injEq] at h
      rw [← h.2, List.length_drop]
      omega
    · simp only [Option.map_eq_some_iff, Prod.mk.injEq] at h
      obtain ⟨⟨u, v⟩, hc, -, rfl⟩ := h
      exact Nat.le_succ_of_le (ih hc)

theorem length_cutTag? {quote : Option UInt8} {t before after : Bytes}
    (h : cutTag? quote t = some (before, after)) : after.length ≤ t.length := by
  induction t generalizing quote before with
  | nil => simp [cutTag?] at h
  | cons b t ih =>
    simp only [cutTag?] at h
    split at h
    · simp only [Option.some.injEq, Prod.mk.injEq] at h
      simp [← h.2]
    · simp only [Option.map_eq_some_iff, Prod.mk.injEq] at h
      obtain ⟨⟨u, v⟩, hc, -, rfl⟩ := h
      exact Nat.le_succ_of_le (ih hc)

theorem length_cutDeclaration? {depth : Nat} {t before after : Bytes}
    (h : cutDeclaration? depth t = some (before, after)) : after.length ≤ t.length := by
  induction t generalizing depth before with
  | nil => simp [cutDeclaration?] at h
  | cons b t ih =>
    simp only [cutDeclaration?] at h
    split at h
    · simp only [Option.some.injEq, Prod.mk.injEq] at h
      simp [← h.2]
    · simp only [Option.map_eq_some_iff, Prod.mk.injEq] at h
      obtain ⟨⟨u, v⟩, hc, -, rfl⟩ := h
      exact Nat.le_succ_of_le (ih hc)

-- -----------------------------------------------------------------------------------------
-- Markup
-- -----------------------------------------------------------------------------------------

def ascii (s : String) : Bytes := Text.toBytes s.toList

/-- Markup that begins with an exclamation mark, read behind it. -/
def bang? (t : Bytes) : Option (Event × Bytes) :=
  if (ascii "-").isPrefixOf t then
    if (ascii "--").isPrefixOf t then
      (cutAt? (ascii "-->") (t.drop 2)).map fun (raw, rest) => (.comment raw, rest)
    else none
  else if (ascii "[").isPrefixOf t then
    if (ascii "[CDATA[").isPrefixOf t then
      (cutAt? (ascii "]]>") (t.drop 7)).map fun (raw, rest) => (.characterData raw, rest)
    else none
  else
    let keyword := (t.take 7).map fun b => (Char.ofNat b.toNat).toUpper
    if keyword == "DOCTYPE".toList then
      match cutDeclaration? 0 (t.drop 7) with
      | some (raw, rest) => if raw.all isSpace then none else some (.docType raw, rest)
      | none => none
    else none

/-- An instruction, read behind its first question mark, which is not the last one as well. -/
def instruction? (t : Bytes) : Option (Event × Bytes) :=
  if t.head? == some 0x3E then none
  else (cutAt? (ascii "?>") t).map fun (raw, rest) => (.instruction raw, rest)

/-- An end tag, read behind its slash. White space may follow the name. -/
def stop? (t : Bytes) : Option (Event × Bytes) :=
  (cutTag? none t).map fun (raw, rest) =>
    let name := (raw.reverse.dropWhile isSpace).reverse
    (.stop (if name.isEmpty then raw else name), rest)

def Tag.ofInside (t : Bytes) : Tag :=
  let name := t.takeWhile (!isSpace ·)
  ⟨name, t.drop name.length⟩

/-- A start tag or an empty element, read behind the angle bracket. -/
def start? (t : Bytes) : Option (Event × Bytes) :=
  (cutTag? none t).map fun (raw, rest) =>
    if raw.getLast? == some 0x2F then (.empty (Tag.ofInside raw.dropLast), rest)
    else (.start (Tag.ofInside raw), rest)

/-- The markup behind an angle bracket, and the bytes after it. -/
def markup? : Bytes → Option (Event × Bytes)
  | [] => none
  | b :: t =>
    if b == 0x21 then bang? t
    else if b == 0x3F then instruction? t
    else if b == 0x2F then stop? t
    else start? (b :: t)

theorem length_bang? {t rest : Bytes} {e : Event} (h : bang? t = some (e, rest)) :
    rest.length ≤ t.length := by
  simp only [bang?] at h
  repeat' split at h
  · simp only [Option.map_eq_some_iff, Prod.mk.injEq] at h
    obtain ⟨⟨u, v⟩, hc, -, rfl⟩ := h
    have := length_cutAt? hc
    simp only [List.length_drop] at this
    show v.length ≤ t.length
    omega
  · exact absurd h nofun
  · simp only [Option.map_eq_some_iff, Prod.mk.injEq] at h
    obtain ⟨⟨u, v⟩, hc, -, rfl⟩ := h
    have := length_cutAt? hc
    simp only [List.length_drop] at this
    show v.length ≤ t.length
    omega
  · exact absurd h nofun
  · exact absurd h nofun
  · rename_i hc _
    simp only [Option.some.injEq, Prod.mk.injEq] at h
    have := length_cutDeclaration? hc
    simp only [List.length_drop] at this
    rw [← h.2]
    omega
  · exact absurd h nofun
  · exact absurd h nofun

theorem length_markup? {t rest : Bytes} {e : Event} (h : markup? t = some (e, rest)) :
    rest.length ≤ t.length := by
  cases t with
  | nil => simp [markup?] at h
  | cons b t =>
    simp only [markup?] at h
    repeat' split at h
    · exact Nat.le_succ_of_le (length_bang? h)
    · simp only [instruction?] at h
      split at h
      · exact absurd h nofun
      · simp only [Option.map_eq_some_iff, Prod.mk.injEq] at h
        obtain ⟨⟨u, v⟩, hc, -, rfl⟩ := h
        exact Nat.le_succ_of_le (length_cutAt? hc)
    · simp only [stop?, Option.map_eq_some_iff, Prod.mk.injEq] at h
      obtain ⟨⟨u, v⟩, hc, -, rfl⟩ := h
      exact Nat.le_succ_of_le (length_cutTag? hc)
    · simp only [start?, Option.map_eq_some_iff] at h
      obtain ⟨⟨u, v⟩, hc, h⟩ := h
      have := length_cutTag? hc
      split at h <;> simp only [Prod.mk.injEq] at h <;> rw [← h.2] <;> exact this

-- -----------------------------------------------------------------------------------------
-- Documents
-- -----------------------------------------------------------------------------------------

/-- What the elements that are open become by an event, if it is in place; the element opened
last is the first. -/
def openAfter? (opened : List Bytes) : Event → Option (List Bytes)
  | .start tag => some (tag.name :: opened)
  | .stop name =>
    match opened with
    | [] => none
    | last :: opened => if last == name then some opened else none
  | _ => some opened

/-- The events of a text in which the elements `opened` are open. -/
def eventsFrom (opened : List Bytes) (t : Bytes) : Events :=
  let raw := t.takeWhile (· != 0x3C)
  let front := if raw.isEmpty then [] else [Event.text raw]
  match _h : t.drop raw.length with
  | [] => ⟨front, true⟩
  | _ :: t =>
    match _h' : markup? t with
    | none => ⟨front, false⟩
    | some (e, rest) =>
      match openAfter? opened e with
      | none => ⟨front, false⟩
      | some opened =>
        let others := eventsFrom opened rest
        { others with events := front ++ e :: others.events }
termination_by t.length
decreasing_by
  have h := congrArg List.length _h
  have h' := length_markup? _h'
  simp only [List.length_drop, List.length_cons] at h
  omega

def byteOrderMark : Bytes := [0xEF, 0xBB, 0xBF]

/-- The events of a document; a byte order mark at its start is not part of it. -/
def events (t : Bytes) : Events :=
  eventsFrom [] (if byteOrderMark.isPrefixOf t then t.drop 3 else t)

end Wikitext.Xml
