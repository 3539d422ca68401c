import Wikitext.Toml.Basic

/-!
# TOML documents

A document is a sequence of lines with entries and headers. An entry belongs to
the table of the last header before it.
-/

namespace Wikitext.Toml

-- -----------------------------------------------------------------------------------------
-- Values
-- -----------------------------------------------------------------------------------------

/-- What follows blanks, line breaks and comments. The first argument bounds their number. -/
def skipFill : Nat → Text → Text
  | 0, t => t
  | n + 1, t =>
    match skipSpace t with
    | '#' :: t => skipFill n (afterComment t)
    | t =>
      match afterBreak? t with
      | some t => skipFill n t
      | none => t

mutual

/-- The value at the start of a text, with `depth` levels around it. The first argument bounds
the number of steps. -/
def value? : Nat → (depth : Nat) → Text → Option (Value × Text)
  | 0, _, _ => none
  | n + 1, depth, t =>
    match t with
    | '[' :: t => if depth + 1 < limit then items? n (depth + 1) [] t else none
    | '\x7b' :: t =>
      if depth + 1 < limit then
        match skipSpace t with
        | '\x7d' :: rest => some (.table .inlined [], rest)
        | t => inlineEntries? n (depth + 1) [] t
      else none
    | '\x22' :: _ => (string? t).map fun (s, rest) => (.string s, rest)
    | '\x27' :: _ => (string? t).map fun (s, rest) => (.string s, rest)
    | t => (scalar? t).map fun rest => (.scalar, rest)

/-- The items of an array from one on; a comma may stand after the last. -/
def items? : Nat → (depth : Nat) → List Value → Text → Option (Value × Text)
  | 0, _, _, _ => none
  | n + 1, depth, items, t =>
    match skipFill t.length t with
    | ']' :: rest => some (.array items, rest)
    | t => do
      let (v, t) ← value? n depth t
      match skipFill t.length t with
      | ',' :: t => items? n depth (items ++ [v]) t
      | ']' :: rest => some (.array (items ++ [v]), rest)
      | _ => none

/-- The entries of a table in braces from one on. -/
def inlineEntries? : Nat → (depth : Nat) → Entries → Text → Option (Value × Text)
  | 0, _, _, _ => none
  | n + 1, depth, entries, t => do
    let (path, key, t) ← key? t
    match t with
    | '=' :: t =>
      let (v, t) ← value? n depth (skipSpace t)
      let entries ← insert .inlined entries path key v
      match skipSpace t with
      | ',' :: t => inlineEntries? n depth entries t
      | '\x7d' :: rest => some (.table .inlined entries, rest)
      | _ => none
    | _ => none

end

-- -----------------------------------------------------------------------------------------
-- Lines
-- -----------------------------------------------------------------------------------------

/-- A document as far as it was read. The table that is being filled is kept apart. -/
structure Draft where
  root : Entries := []
  /-- The path of the table that is being filled; nothing for the document itself. -/
  header : Option (List Text × Text) := none
  /-- Whether the header stands in double brackets. -/
  repeated : Bool := false
  current : Entries := []

namespace Draft

/-- Puts the table that was being filled into its place. -/
def finish? (d : Draft) : Option Entries :=
  match d.header with
  | none => some d.current
  | some (path, key) =>
    descend false
      (fun _ entries =>
        match entries.lookup key with
        | none =>
          some (entries.set key
            (if d.repeated then .tables [d.current] else .table .defined d.current))
        | some (.tables items) =>
          if d.repeated then some (entries.set key (.tables (items ++ [d.current]))) else none
        | some _ => none)
      .defined path d.root

/-- The table at a path, where `key` is to be the last part, if there is one. -/
def find? : List Text → Entries → (key : Text) → Option Value
  | [], entries, key => entries.lookup key
  | k :: path, entries, key =>
    match entries.lookup k with
    | some (.table _ inner) => find? path inner key
    | some (.tables items) => find? path (items.getLastD []) key
    | _ => none

/-- Begins a table with a header. A table that was only implied so far is taken over. -/
def openTable? (d : Draft) (path : List Text) (key : Text) : Option Draft := do
  let root ← d.finish?
  match find? path root key with
  | none =>
    let root ← descend false (fun _ entries => some entries) .defined path root
    return { root, header := some (path, key) }
  | some (.table .implied inner) =>
    let root ← descend false
      (fun _ entries => some (entries.filter fun (k, _) => k != key)) .defined path root
    return { root, header := some (path, key), current := inner }
  | some _ => none

/-- Begins a table with a header in double brackets. -/
def openRepeated? (d : Draft) (path : List Text) (key : Text) : Option Draft := do
  let root ← d.finish?
  match find? path root key with
  | none =>
    let root ← descend false (fun _ entries => some entries) .defined path root
    return { root, header := some (path, key), repeated := true }
  | some (.tables _) => return { root, header := some (path, key), repeated := true }
  | some _ => none

end Draft

/-- Reads a header behind its first bracket. -/
def header? (d : Draft) (t : Text) : Option (Draft × Text) := do
  match t with
  | '[' :: t =>
    let (path, key, t) ← key? t
    let rest ← Text.dropPrefix? "]]".toList t
    return (← d.openRepeated? path key, ← afterLine? rest)
  | t =>
    let (path, key, t) ← key? t
    let rest ← Text.dropPrefix? "]".toList t
    return (← d.openTable? path key, ← afterLine? rest)

def entry? (d : Draft) (t : Text) : Option (Draft × Text) := do
  let (path, key, t) ← key? t
  let t ← Text.dropPrefix? ['='] t
  let (v, t) ← value? (t.length + 1) 0 (skipSpace t)
  return ({ d with current := ← insert .defined d.current path key v }, ← afterLine? t)

/-- Reads lines, at most as many as the first argument says. -/
def lines? : Nat → Draft → Text → Option Draft
  | 0, _, _ => none
  | n + 1, d, t =>
    match skipSpace t with
    | [] => some d
    | '#' :: t => do lines? n d (← afterLine? ('#' :: t))
    | '[' :: t => do
      let (d, rest) ← header? d t
      lines? n d rest
    | t =>
      match afterBreak? t with
      | some rest => lines? n d rest
      | none => do
        let (d, rest) ← entry? d t
        lines? n d rest

/-- The entries of a document; a byte order mark at its start does not count. -/
def read? (t : Text) : Option Entries := do
  let t := match t with
    | '\uFEFF' :: t => t
    | t => t
  (← lines? (t.length + 1) {} t).finish?

end Wikitext.Toml
