import ArbBundle.Proofs.Bytes.Numeral
import ArbBundle.Proofs.Text.Reader
import ArbBundle.Toml.Document

/-!
# Entry — a text under a key at the head of a document

Every text can be written as a string on one line.  A line with a key and such a string, put in
front of a document that does not speak of the key, adds this entry to the document and leaves the
rest of it as it is.

- `Toml.quoted`: a text as a string; `Toml.string_quoted`: the string is read as the text
- `Toml.entryLine`: the line of a key and a text; `Toml.line_entryLine`: what it is read as
- `Draft.Touches`: work on one key of a table; `Outline.add?_touches`: a statement is such work
- `Toml.document?_entryLine`: the document with the line in front
-/

namespace ArbBundle
namespace Toml

open Text Text.Reader

variable {s rest name : List Char} {c : Char}

/-! ## Strings -/

/-- Whether a character may stand for itself in a string. -/
def isPlain (c : Char) : Bool :=
  isPrintable c && c ≠ '"' && c ≠ '\\'

/-- The number of a character of ASCII in four hexadecimal digits. -/
def charDigits (c : Char) : List Char :=
  ['0', '0', Nat.digitChar (c.toNat / 16), Nat.digitChar (c.toNat % 16)]

/-- A character as it stands in a string; what may not stand for itself is escaped by its number. -/
def quotedChar (c : Char) : List Char :=
  if isPlain c then [c] else '\\' :: 'u' :: charDigits c

def quoted (s : List Char) : List Char :=
  '"' :: (s.flatMap quotedChar ++ ['"'])

/-- Only characters of ASCII have to be escaped. -/
theorem ascii_of_not_plain (h : isPlain c = false) : c.toNat < 128 := by
  by_contra hc
  have hspace : ' ' ≤ c := by
    show (' ').toNat ≤ c.toNat
    have hvalue : (' ').toNat = 32 := rfl
    omega
  have hother (m : Char) (hm : m.toNat < 128) : c ≠ m := by
    rintro rfl
    exact hc hm
  simp [isPlain, isPrintable, hspace, hother] at h

/-- An escape by number is read back. -/
theorem numbered_charDigits (hc : c.toNat < 128) :
    numbered 4 (charDigits c ++ rest) = some (c, rest) := by
  have hall : ∀ n < 128, (charDigits (Char.ofNat n)).all isHexDigit = true ∧
      hexValue (charDigits (Char.ofNat n)) = (Char.ofNat n).toNat ∧
        (Char.ofNat n).toNat.isValidChar := by
    decide +kernel
  obtain ⟨hdigits, hvalue, hvalid⟩ := Numeral.forall_ascii (P := fun c =>
    (charDigits c).all isHexDigit = true ∧ hexValue (charDigits c) = c.toNat ∧
      c.toNat.isValidChar) hall hc
  have htake : takeExactly 4 isHexDigit (charDigits c ++ rest) = some (charDigits c, rest) :=
    if_pos ⟨rfl, hdigits⟩
  rw [numbered, bind_apply, htake, Option.bind_some, hvalue, if_pos hvalid, Char.ofNat_toNat]
  rfl

/-- A character of a string is read back, escaped or not. -/
theorem basicChar_quotedChar : basicChar (quotedChar c ++ rest) = some (c, rest) := by
  unfold quotedChar
  split
  · rename_i hplain
    have hbackslash : c ≠ '\\' := by
      rintro rfl
      revert hplain
      decide
    have hsatisfy : (isPrintable c && c ≠ '"' && c ≠ '\\') = true := hplain
    simp only [basicChar, escape, List.singleton_append, orElse_apply, bind_apply, char_cons,
      if_neg hbackslash, Option.bind_none, Option.none_or, satisfy_cons, hsatisfy, if_true]
  · rename_i hplain
    have hnumber : numbered 4 (charDigits c ++ rest) = some (c, rest) :=
      numbered_charDigits (ascii_of_not_plain (by simpa using hplain))
    simp [basicChar, escape, escaped, hnumber]

theorem quotedChar_ne_nil : quotedChar c ≠ [] := by
  unfold quotedChar
  split <;> exact List.cons_ne_nil _ _

/-- The characters of a string are read up to its end. -/
theorem manyFrom_quotedChars :
    manyFrom basicChar (s.flatMap quotedChar ++ '"' :: rest) = (s, '"' :: rest) := by
  induction s with
  | nil =>
      exact manyFrom_of_none rfl
  | cons c s ih =>
      have hlonger := List.length_pos_iff.2 (quotedChar_ne_nil (c := c))
      rw [List.flatMap_cons, List.append_assoc,
        manyFrom_of_some basicChar_quotedChar (by simp only [List.length_append]; omega), ih]

/-- A quoted text is read back as a string. -/
theorem basicString_quoted : basicString (quoted s ++ rest) = some (s, rest) := by
  have hmany : many basicChar (s.flatMap quotedChar ++ '"' :: rest) = some (s, '"' :: rest) :=
    congrArg some manyFrom_quotedChars
  simp [basicString, quoted, hmany]

/-- A string on one line is not taken for the beginning of one over several lines. -/
theorem not_long (hrest : rest.head? ≠ some '"') :
    List.isPrefixOf ['"', '"', '"'] (quoted s ++ rest) = false := by
  cases s with
  | nil =>
      cases rest with
      | nil => rfl
      | cons c rest =>
          have hc : '"' ≠ c := fun h => hrest (by rw [h]; rfl)
          simp [quoted, List.isPrefixOf, hc]
  | cons c s =>
      have hfirst : ∃ d tail, quotedChar c = d :: tail ∧ '"' ≠ d := by
        unfold quotedChar
        split
        · rename_i hplain
          refine ⟨c, [], rfl, ?_⟩
          rintro rfl
          revert hplain
          decide
        · exact ⟨_, _, rfl, by decide⟩
      obtain ⟨d, tail, hquoted, hd⟩ := hfirst
      simp [quoted, hquoted, List.isPrefixOf, hd]

/-- Whatever the text is, the string is read as it. -/
theorem string_quoted (hrest : rest.head? ≠ some '"') :
    string (quoted s ++ rest) = some (String.ofList s, rest) := by
  have hlong : longBasicString (quoted s ++ rest) = none := by
    have hopen : exactly (List.replicate 3 '"') (quoted s ++ rest) = none :=
      if_neg (by rw [show List.replicate 3 '"' = ['"', '"', '"'] from rfl, not_long hrest]; decide)
    simp only [longBasicString, longString, bind_apply, hopen, Option.bind_none]
  have hone : string.basicStringAlone (quoted s ++ rest) = some (s, rest) := by
    rw [string.basicStringAlone, not_long hrest]
    exact basicString_quoted
  simp only [string, map_apply, orElse_apply, hlong, hone, Option.none_or, Option.some_or,
    Option.map_some]

/-- A quoted text is read back as a value, unless one more quote makes it the beginning of a long
string. -/
theorem value_quoted (depth : Nat) (hrest : rest.head? ≠ some '"') :
    value depth (quoted s ++ rest) = some (.text (String.ofList s), rest) := by
  cases depth <;>
    simp only [value, orElse_apply, map_apply, string_quoted hrest, Option.map_some, Option.some_or]

/-! ## Lines -/

def entryLine (name s : List Char) : List Char :=
  name ++ (' ' :: '=' :: ' ' :: (quoted s ++ ['\n']))

/-- What may stand before, behind or instead of a key begins with none of the characters of keys. -/
theorem ne_of_isKeyChar (hc : isKeyChar c = true) :
    ∀ m ∈ [' ', '\t', '\n', '\r', '#', '[', '"', '\''], c ≠ m := by
  have hall : ∀ m ∈ [' ', '\t', '\n', '\r', '#', '[', '"', '\''], isKeyChar m = false := by
    simp [isKeyChar]
  rintro m hm rfl
  rw [hall c hm] at hc
  cases hc

/-- A key without quotes is read up to the sign behind it. -/
theorem key_bare (hne : name ≠ []) (hname : ∀ c ∈ name, isKeyChar c = true) :
    key (name ++ ' ' :: '=' :: rest) = some (([], String.ofList name), '=' :: rest) := by
  obtain ⟨c, tail, rfl⟩ := List.exists_cons_of_ne_nil hne
  have hother := ne_of_isKeyChar (hname c List.mem_cons_self)
  have hblanks : blanks (c :: (tail ++ ' ' :: '=' :: rest)) =
      some ((), c :: (tail ++ ' ' :: '=' :: rest)) := by
    simp [blanks, takeWhile_apply, isBlank, hother]
  have hword : takeWhile1 isKeyChar (c :: (tail ++ ' ' :: '=' :: rest)) =
      some (c :: tail, ' ' :: '=' :: rest) :=
    takeWhile1_append (List.cons_ne_nil c tail) hname fun d hd => by cases hd; rfl
  have hsimple : simpleKey (c :: (tail ++ ' ' :: '=' :: rest)) =
      some (String.ofList (c :: tail), ' ' :: '=' :: rest) := by
    simp [simpleKey, basicString, literalString, hother, hword]
  have hbehind : blanks (' ' :: '=' :: rest) = some ((), '=' :: rest) := rfl
  have hspaced : spacedKey (c :: (tail ++ ' ' :: '=' :: rest)) =
      some (String.ofList (c :: tail), '=' :: rest) := by
    simp only [spacedKey, bind_apply, hblanks, hsimple, hbehind, Option.bind_some, pure_apply]
  have hnomore : many (do let _ ← char '.'; spacedKey) ('=' :: rest) =
      some (([] : List String), '=' :: rest) :=
    congrArg some (manyFrom_of_none rfl)
  have hparts : separated spacedKey (char '.') (c :: (tail ++ ' ' :: '=' :: rest)) =
      some ([String.ofList (c :: tail)], '=' :: rest) := by
    simp only [separated, bind_apply, hspaced, hnomore, Option.bind_some, pure_apply]
  rw [List.cons_append, key, bind_apply, hparts]
  rfl

/-- The line is read as the entry of its text under its key, and blanks behind it go too. -/
theorem line_entryLine (hne : name ≠ []) (hname : ∀ c ∈ name, isKeyChar c = true) :
    line (entryLine name s ++ rest) =
      some (some (.entry [] (String.ofList name) (.text (String.ofList s))),
        rest.dropWhile isBlank) := by
  have htext : entryLine name s ++ rest =
      name ++ ' ' :: '=' :: ' ' :: (quoted s ++ '\n' :: rest) := by
    simp [entryLine]
  have hkey : key (name ++ ' ' :: '=' :: ' ' :: (quoted s ++ '\n' :: rest)) =
      some (([], String.ofList name), '=' :: ' ' :: (quoted s ++ '\n' :: rest)) :=
    key_bare hne hname
  have hvalue : value maxDepth (quoted s ++ '\n' :: rest) =
      some (.text (String.ofList s), '\n' :: rest) :=
    value_quoted maxDepth (by simp)
  have hentry : entry (name ++ ' ' :: '=' :: ' ' :: (quoted s ++ '\n' :: rest)) =
      some (.entry [] (String.ofList name) (.text (String.ofList s)), '\n' :: rest) := by
    have hblank : blanks (' ' :: (quoted s ++ '\n' :: rest)) =
        some ((), quoted s ++ '\n' :: rest) := rfl
    simp only [entry, keyValue, bind_apply, hkey, char_cons, if_true, hblank, hvalue,
      Option.bind_some, pure_apply]
  have hend : lineEnd ('\n' :: rest) = some ((), rest) := rfl
  obtain ⟨c, tail, rfl⟩ := List.exists_cons_of_ne_nil hne
  have hother := ne_of_isKeyChar (hname c List.mem_cons_self)
  rw [htext]
  rw [List.cons_append] at hentry ⊢
  -- The line is neither empty nor a header.
  generalize tail ++ ' ' :: '=' :: ' ' :: (quoted s ++ '\n' :: rest) = text at hentry ⊢
  have hreturn : '\r' ≠ c := (hother '\r' (by decide)).symm
  have hbracket : '[' ≠ c := (hother '[' (by decide)).symm
  have hempty : emptyLine (c :: text) = none := by
    simp [emptyLine, newline, comment, hother, hreturn]
  have helement : elementHeader (c :: text) = none := by
    simp [elementHeader, hbracket]
  have hheader : header (c :: text) = none := by
    simp [header, hother]
  have hblanks : blanks rest = some ((), rest.dropWhile isBlank) := rfl
  simp only [line, statement, bind_apply, orElse_apply, map_apply, hempty, helement, hheader,
    hentry, hend, hblanks, Option.bind_none, Option.none_or, Option.bind_some, Option.map_some,
    pure_apply]

/-! ## Tables -/

namespace Draft

variable {key key' : String} {d : Draft} {entries entries' : Entries}
  {work : Entries → Option Entries}

def keys (entries : Entries) : List String :=
  entries.map Prod.fst

/-- A table has its old keys, and the one that was put. -/
theorem mem_keys_put {k : String} : k ∈ keys (put key d entries) ↔ k = key ∨ k ∈ keys entries := by
  induction entries with
  | nil =>
      simp [put, keys]
  | cons entry rest ih =>
      unfold keys at ih ⊢
      rw [put]
      split
      · rename_i hkey
        simp [hkey]
      · rw [List.map_cons, List.mem_cons, ih, List.map_cons, List.mem_cons]
        exact or_left_comm

/-- Work on a table that looks at what one key stands for, and puts something in its place. -/
def Touches (key : String) (work : Entries → Option Entries) : Prop :=
  ∃ change : Option Draft → Option Draft, ∀ entries,
    work entries = (change (entries.lookup key)).map fun d => put key d entries

/-- Work on one key passes over the entry of another key at the head of the table. -/
theorem Touches.behind (h : Touches key work) (hne : key' ≠ key) :
    work ((key', d) :: entries) = (work entries).map ((key', d) :: ·) := by
  obtain ⟨change, hwork⟩ := h
  have hlookup : List.lookup key ((key', d) :: entries) = entries.lookup key := by
    rw [List.lookup_cons, beq_false_of_ne hne.symm]
  rw [hwork, hwork, hlookup, Option.map_map]
  congr 1
  funext e
  exact if_neg hne

/-- Work on one key leaves the other keys of a table, and the table has this key afterwards. -/
theorem Touches.mem_keys_iff (h : Touches key work) (hwork : work entries = some entries')
    {k : String} : k ∈ keys entries' ↔ k = key ∨ k ∈ keys entries := by
  obtain ⟨change, hall⟩ := h
  rw [hall] at hwork
  obtain ⟨d, -, rfl⟩ := Option.map_eq_some_iff.1 hwork
  exact mem_keys_put

/-- What stands under the first key of a header after work on the table that the header names. -/
def reached? (work : Entries → Option Entries) (path : List String) : Option Draft → Option Draft
  | none => (atHeader? work path []).map (.table .implied)
  | some (.value _) => none
  | some (.table form t) => (atHeader? work path t).map (.table form)
  | some (.tables done last) => (atHeader? work path last).map (.tables done)

/-- On the way to a table all that happens is that the first key gets something else. -/
theorem exists_touches_atHeader? (path : List String) (h : ∃ key, Touches key work) :
    ∃ key, Touches key (atHeader? work path) := by
  cases path with
  | nil =>
      exact h
  | cons key path =>
      refine ⟨key, reached? work path, fun entries => ?_⟩
      rw [atHeader?]
      split <;> rename_i hlookup <;> rw [hlookup, reached?]
      · rw [Option.map_map]
        rfl
      · rfl
      · rw [Option.map_map]
        rfl
      · rw [Option.map_map]
        rfl

/-- What stands under the first part of a dotted key after work on the table of the parts before the
last one. -/
def descended? (work : Entries → Option Entries) (path : List String) :
    Option Draft → Option Draft
  | none => (atKeys? work path []).map (.table .dotted)
  | some (.table .dotted t) => (atKeys? work path t).map (.table .dotted)
  | some (.table .implied t) =>
    if path.isEmpty then none else (atKeys? work path t).map (.table .implied)
  | some (.tables done last) =>
    if path.isEmpty then none else (atKeys? work path last).map (.tables done)
  | some (.table .header _) => none
  | some (.value _) => none

/-- Work on the table of a dotted key touches one key: the first part of the dotted one, or the key
of the work itself. -/
theorem exists_touches_atKeys? (path : List String) (h : ∃ key, Touches key work) :
    ∃ key, Touches key (atKeys? work path) := by
  cases path with
  | nil =>
      exact h
  | cons key path =>
      refine ⟨key, descended? work path, fun entries => ?_⟩
      rw [atKeys?]
      split <;> rename_i hlookup <;> rw [hlookup, descended?]
      · rw [Option.map_map]
        rfl
      · rw [Option.map_map]
        rfl
      · split
        · rfl
        · rw [Option.map_map]
          rfl
      · split
        · rfl
        · rw [Option.map_map]
          rfl
      · rfl
      · rfl

/-- What stands under the key of a header after the header. -/
def opened? : Option Draft → Option Draft
  | none => some (.table .header [])
  | some (.table .implied t) => some (.table .header t)
  | _ => none

theorem exists_touches_open? (path : List String) (key : String) :
    ∃ key', Touches key' (open? path key) := by
  refine exists_touches_atHeader? path ⟨key, opened?, fun entries => ?_⟩
  dsimp only
  cases entries.lookup key with
  | none => rfl
  | some d =>
      cases d with
      | table form t => cases form <;> rfl
      | value | tables => rfl

/-- What stands under the key of a header in double brackets after the header. -/
def extended? : Option Draft → Option Draft
  | none => some (.tables [] [])
  | some (.tables done last) => some (.tables (done ++ [last]) [])
  | _ => none

theorem exists_touches_openElement? (path : List String) (key : String) :
    ∃ key', Touches key' (openElement? path key) := by
  refine exists_touches_atHeader? path ⟨key, extended?, fun entries => ?_⟩
  dsimp only
  cases entries.lookup key with
  | none => rfl
  | some d => cases d <;> rfl

/-- What stands under a key after the entry of a value for it. -/
def entered? (v : Toml) : Option Draft → Option Draft
  | none => some (.value v)
  | some _ => none

theorem exists_touches_insert? (path : List String) (key : String) (v : Toml) :
    ∃ key', Touches key' (insert? path key v) := by
  refine exists_touches_atKeys? path ⟨key, entered? v, fun entries => ?_⟩
  dsimp only
  cases entries.lookup key <;> rfl

theorem keys_finishEntries : (finishEntries entries).map Prod.fst = keys entries := by
  induction entries with
  | nil =>
      simp [finishEntries, keys]
  | cons entry rest ih =>
      simp only [keys] at ih
      simp [finishEntries, keys, ih]

end Draft

/-! ## Documents -/

/-- A statement works on one key of the root. -/
theorem Outline.add?_touches (path : List String) (st : Statement) :
    ∃ key work path', Draft.Touches key work ∧
      ∀ root, add? ⟨root, path⟩ st = (work root).map fun root => ⟨root, path'⟩ := by
  cases st with
  | header p k =>
      obtain ⟨key, htouches⟩ := Draft.exists_touches_open? p k
      exact ⟨key, _, _, htouches, fun _ => rfl⟩
  | elementHeader p k =>
      obtain ⟨key, htouches⟩ := Draft.exists_touches_openElement? p k
      exact ⟨key, _, _, htouches, fun _ => rfl⟩
  | entry p k v =>
      obtain ⟨key, htouches⟩ :=
        Draft.exists_touches_atHeader? path (Draft.exists_touches_insert? p k v)
      exact ⟨key, _, _, htouches, fun _ => rfl⟩

/-- Where the finished root does not have some key, no statement has worked on it, and so none minds
an entry of this key at the head of the root. -/
theorem Outline.foldlM_add?_behind {key : String} (d : Draft) (found : List Statement)
    {root : Entries} {path : List String} {final : Outline}
    (h : found.foldlM add? ⟨root, path⟩ = some final) (hfree : key ∉ Draft.keys final.root) :
    key ∉ Draft.keys root ∧
      found.foldlM add? ⟨(key, d) :: root, path⟩ =
        some ⟨(key, d) :: final.root, final.path⟩ := by
  induction found generalizing root path with
  | nil =>
      cases h
      exact ⟨hfree, rfl⟩
  | cons st found ih =>
      obtain ⟨touched, work, path', htouches, hadd⟩ := add?_touches path st
      rw [List.foldlM_cons, hadd] at h
      obtain ⟨o, ho, hrest⟩ := Option.bind_eq_some_iff.1 h
      obtain ⟨root', hwork, rfl⟩ := Option.map_eq_some_iff.1 ho
      obtain ⟨hfree', hbehind⟩ := ih hrest
      have hkeys := htouches.mem_keys_iff hwork (k := key)
      have hne : key ≠ touched := fun heq => hfree' (hkeys.2 (.inl heq))
      refine ⟨fun hmem => hfree' (hkeys.2 (.inr hmem)), ?_⟩
      rw [List.foldlM_cons, hadd, htouches.behind hne, hwork]
      exact hbehind

/-- The line at the head of a document is its first statement. -/
theorem statements_entryLine (hne : name ≠ []) (hname : ∀ c ∈ name, isKeyChar c = true)
    (text : List Char) :
    statements (entryLine name s ++ text) =
      (statements text).map fun p =>
        (.entry [] (String.ofList name) (.text (String.ofList s)) :: p.1, p.2) := by
  have hblanks : (entryLine name s ++ text).dropWhile isBlank = entryLine name s ++ text := by
    obtain ⟨c, tail, rfl⟩ := List.exists_cons_of_ne_nil hne
    have hother := ne_of_isKeyChar (hname c List.mem_cons_self)
    simp [entryLine, isBlank, hother]
  have hless : (text.dropWhile isBlank).length < (entryLine name s ++ text).length := by
    have hdrop := (List.dropWhile_suffix isBlank (l := text)).length_le
    simp only [entryLine, List.length_append, List.length_cons]
    omega
  have hstatements (t : List Char) : statements t =
      some ((manyFrom line (t.dropWhile isBlank)).1.filterMap id,
        (manyFrom line (t.dropWhile isBlank)).2) :=
    rfl
  rw [hstatements, hstatements, hblanks, manyFrom_of_some (line_entryLine hne hname) hless]
  rfl

/-- The line adds its entry to a document that does not have the key. -/
theorem document?_entryLine (hne : name ≠ []) (hname : ∀ c ∈ name, isKeyChar c = true)
    {text : List Char} {entries : List (String × Toml)} (h : document? text = some entries)
    (hfree : String.ofList name ∉ entries.map Prod.fst) :
    document? (entryLine name s ++ text) =
      some ((String.ofList name, .text (String.ofList s)) :: entries) := by
  obtain ⟨found, hfound, h⟩ := Option.bind_eq_some_iff.1 h
  obtain ⟨outline, houtline, hentries⟩ := Option.bind_eq_some_iff.1 h
  cases hentries
  rw [Draft.keys_finishEntries] at hfree
  have hline : whole? statements (entryLine name s ++ text) =
      some (.entry [] (String.ofList name) (.text (String.ofList s)) :: found) := by
    rw [whole?_eq_some_iff] at hfound ⊢
    rw [statements_entryLine hne hname, hfound]
    rfl
  obtain ⟨-, hbehind⟩ := Outline.foldlM_add?_behind (.value (.text (String.ofList s))) found houtline
    hfree
  show (whole? statements _).bind (fun found => (found.foldlM Outline.add? ⟨[], []⟩).bind
    fun outline => some (Draft.finishEntries outline.root)) = _
  rw [hline, Option.bind_some, List.foldlM_cons]
  show ((found.foldlM Outline.add? ⟨[(String.ofList name, _)], []⟩).bind _) = _
  rw [hbehind, Option.bind_some, Draft.finishEntries]
  rfl

end Toml
end ArbBundle
