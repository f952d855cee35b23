import Lookout.Proofs.Toml.Values

/-!
# TOML documents read back

A document of sections, each with a header and fields, is read line by line: every line is read as what it says, and
what it says is added to the document so far. As no section and no field is there twice, nothing gets in the way of
another, and the document is the table of its sections.
-/

namespace Lookout.Toml
set_option autoImplicit false
open Text

variable {s t rest : List Char} {text key name : String} {v : Value}

/-- Keys that need no quotes. -/
structure IsBare (key : String) : Prop where
  nonempty : key.toList ≠ []
  bare : ∀ c ∈ key.toList, isBareChar c = true

theorem isBare_iff : IsBare key ↔ (!key.toList.isEmpty && key.toList.all isBareChar) = true := by
  simp only [Bool.and_eq_true, Bool.not_eq_true', List.isEmpty_eq_false_iff, List.all_eq_true]
  exact ⟨fun h => ⟨h.nonempty, h.bare⟩, fun h => ⟨h.1, h.2⟩⟩

instance (key : String) : Decidable (IsBare key) := decidable_of_iff _ isBare_iff.symm

theorem IsBare.first (bare : IsBare key) : ∃ c r, key.toList = c :: r ∧ isBareChar c = true := by
  obtain ⟨c, r, shape⟩ := List.exists_cons_of_ne_nil bare.nonempty
  exact ⟨c, r, shape, bare.bare c (shape ▸ List.mem_cons_self)⟩

theorem ne_of_isBareChar {c d : Char} (bare : isBareChar c = true) (other : isBareChar d = false) : c ≠ d := by
  rintro rfl
  exact Bool.false_ne_true (other.symm.trans bare)

theorem IsBare.append_ne (bare : IsBare key) {d : Char} (strange : isBareChar d = false) (t r : List Char) :
    key.toList ++ t ≠ d :: r := by
  intro same
  obtain ⟨c, cs, shape, first⟩ := bare.first
  rw [shape] at same
  exact ne_of_isBareChar first strange (List.cons.inj same).1

theorem skipBlanks_cons {c : Char} (solid : isBlank c = false) (r : List Char) : skipBlanks (c :: r) = c :: r := by
  simp [skipBlanks, solid]

theorem isBlank_of_isBareChar {c : Char} (bare : isBareChar c = true) : isBlank c = false := by
  have space := ne_of_isBareChar bare (d := ' ') rfl
  have tab := ne_of_isBareChar bare (d := '\t') rfl
  simp [isBlank, space, tab]

theorem readKeyPart_bare (bare : IsBare key) {d : Char} (ends : isBareChar d = false) (r : List Char) :
    readKeyPart (key.toList ++ d :: r) = some (key, d :: r) := by
  have whole := takeWhile_append_cons bare.bare ends (r := r)
  have after := dropWhile_append_cons bare.bare ends (r := r)
  unfold readKeyPart
  split
  · next same => exact absurd same (bare.append_ne rfl _ _)
  · next same => exact absurd same (bare.append_ne rfl _ _)
  · rw [whole, after]
    split
    · next empty => exact absurd empty bare.nonempty
    · rw [String.ofList_toList]

theorem readKey_bare (bare : IsBare key) {d : Char} (ends : isBareChar d = false) {r : List Char}
    (single : (skipBlanks (d :: r)).head? ≠ some '.') :
    readKey (key.toList ++ d :: r) = some (([], key), skipBlanks (d :: r)) := by
  have part := readKeyPart_bare bare ends r
  obtain ⟨c, cs, shape, first⟩ := bare.first
  have solid : skipBlanks (key.toList ++ d :: r) = key.toList ++ d :: r := by
    rw [shape, List.cons_append, skipBlanks_cons (isBlank_of_isBareChar first)]
  have parts : readKeyParts maxKeyParts (key.toList ++ d :: r) = some ([key], skipBlanks (d :: r)) := by
    unfold maxKeyParts
    rw [readKeyParts, solid, part]
    simp only [Option.bind_eq_bind, Option.bind_some]
    split
    · next same => exact absurd (by rw [same]; rfl) single
    · rfl
  rw [readKey, parts]
  rfl

/-- A line of a document in writing. -/
structure IsLine (text : List Char) (line : Line) : Prop where
  first : ∃ c r, text = c :: r ∧ ∀ r, skipFiller false (c :: r) = some (c :: r)
  read : ∀ rest, readLine (text ++ '\n' :: rest) = some (line, '\n' :: rest)

theorem skipFiller_cons {c : Char} (solid : isBareChar c = true ∨ c = '[') (r : List Char) :
    skipFiller false (c :: r) = some (c :: r) := by
  have other : ∀ d, isBareChar d = false → d ≠ '[' → c ≠ d := by
    intro d strange bracket same
    rcases solid with bare | opens
    · exact ne_of_isBareChar bare strange same
    · exact bracket (same.symm.trans opens)
  simp [skipFiller, isBlank, other '\n' rfl (by decide), other '\r' rfl (by decide), other '#' rfl (by decide),
    other ' ' rfl (by decide), other '\t' rfl (by decide)]

theorem isLine_header (bare : IsBare name) : IsLine ('[' :: (name.toList ++ [']'])) (.header [] name) where
  first := ⟨'[', _, rfl, fun r => skipFiller_cons (.inr rfl) r⟩
  read rest := by
    have close : skipBlanks (']' :: '\n' :: rest) = ']' :: '\n' :: rest := skipBlanks_cons rfl _
    have key := readKey_bare bare (d := ']') rfl (r := '\n' :: rest) (by simp [close])
    rw [close] at key
    rw [List.cons_append, List.append_assoc, List.singleton_append]
    unfold readLine
    split
    · next same => exact absurd (List.cons.inj same).2 (bare.append_ne rfl _ _)
    · next same =>
      obtain rfl := (List.cons.inj same).2
      rw [key]
      rfl
    · next other => exact absurd rfl (other _)

theorem isLine_assignment (bare : IsBare key) (spells : Spells text v) :
    IsLine (key.toList ++ ' ' :: '=' :: ' ' :: text.toList) (.assignment ([], key, v)) where
  first := by
    obtain ⟨c, cs, shape, first⟩ := bare.first
    exact ⟨c, _, by rw [shape]; rfl, fun r => skipFiller_cons (.inl first) r⟩
  read rest := by
    obtain ⟨d, ds, written, solid⟩ := spells.first
    have sign : skipBlanks (' ' :: '=' :: ' ' :: (text.toList ++ '\n' :: rest)) =
        '=' :: ' ' :: (text.toList ++ '\n' :: rest) := by simp [skipBlanks, isBlank]
    have value : skipBlanks (' ' :: (text.toList ++ '\n' :: rest)) = text.toList ++ '\n' :: rest := by
      change skipBlanks (text.toList ++ '\n' :: rest) = _
      rw [written, List.cons_append, skipBlanks_cons solid]
    have assignment : readAssignment (readValue maxDepth)
        (key.toList ++ ' ' :: '=' :: ' ' :: (text.toList ++ '\n' :: rest)) = some (([], key, v), '\n' :: rest) := by
      rw [readAssignment, readKey_bare bare rfl (by simp [sign]), sign]
      simp [value, spells.read]
    rw [List.append_assoc]
    simp only [List.cons_append]
    unfold readLine
    split
    · next same => exact absurd same (bare.append_ne rfl _ _)
    · next same => exact absurd same (bare.append_ne rfl _ _)
    · rw [assignment]
      rfl

/-- A document in writing, read with any fuel that suffices. -/
def IsDocument (text : List Char) (lines : List Line) : Prop :=
  ∀ fuel, text.length < fuel → readLines fuel text = some lines

theorem isDocument_nil : IsDocument [] [] := by
  intro fuel enough
  obtain ⟨fuel, rfl⟩ := Nat.exists_eq_add_one.2 (Nat.zero_lt_of_lt enough)
  rfl

theorem IsDocument.newline {lines : List Line} (document : IsDocument s lines) : IsDocument ('\n' :: s) lines := by
  intro fuel enough
  obtain ⟨fuel, rfl⟩ := Nat.exists_eq_add_one.2 (Nat.zero_lt_of_lt enough)
  rw [← document (fuel + 1) (by simp at enough; omega), readLines, readLines]
  rfl

theorem IsLine.document {line : Line} {lines : List Line} (isLine : IsLine t line) (document : IsDocument s lines) :
    IsDocument (t ++ '\n' :: s) (line :: lines) := by
  intro fuel enough
  obtain ⟨fuel, rfl⟩ := Nat.exists_eq_add_one.2 (Nat.zero_lt_of_lt enough)
  obtain ⟨c, r, shape, start⟩ := isLine.first
  have first : skipFiller false (t ++ '\n' :: s) = some (t ++ '\n' :: s) := by
    rw [shape]
    exact start _
  have later := document fuel (by simp only [List.length_append, List.length_cons] at enough; omega)
  have newline : afterLine? ('\n' :: s) = some s := by simp [afterLine?, skipBlanks, isBlank, afterNewline?]
  rw [readLines, first]
  simp only [Option.bind_eq_bind, Option.bind_some]
  split
  · next empty => simp [shape] at empty
  · rw [isLine.read]
    simp [newline, later]

/-- A field of a table, with its value in writing. -/
structure Field where
  key : String
  text : String
  value : Value
  bare : IsBare key
  spells : Spells text value

namespace Field

def written (f : Field) : String × String := (f.key, f.text)

def entry (f : Field) : String × Value := (f.key, f.value)

def line (f : Field) : Line := .assignment ([], f.key, f.value)

end Field

theorem IsDocument.fields {lines : List Line} (document : IsDocument s lines) (fields : List Field) :
    IsDocument ((String.join (fields.map fun f => f.key ++ " = " ++ f.text ++ "\n")).toList ++ s)
      (fields.map Field.line ++ lines) := by
  induction fields with
  | nil => exact document
  | cons f fields ih =>
    have next := (isLine_assignment f.bare f.spells).document ih
    simpa [String.toList_join, Field.line] using next

/-- A table in writing is its header and its fields. -/
theorem IsDocument.table {lines : List Line} (document : IsDocument s lines) (bare : IsBare name)
    (fields : List Field) :
    IsDocument ((writeTable name (fields.map Field.written)).toList ++ s)
      (.header [] name :: (fields.map Field.line ++ lines)) := by
  have next := (isLine_header bare).document (document.fields fields)
  simpa [writeTable, Field.written, Function.comp_def] using next

variable {before inner : Entries}

theorem lookup_eq_none (fresh : name ∉ before.map Prod.fst) : before.lookup name = none := by
  refine List.lookup_eq_none_iff.2 fun e mem => bne_iff_ne.2 ?_
  rintro rfl
  exact fresh (List.mem_map_of_mem mem)

theorem lookup_append_singleton (fresh : name ∉ before.map Prod.fst) (v : Value) :
    (before ++ [(name, v)]).lookup name = some v := by
  rw [List.lookup_append, lookup_eq_none fresh]
  simp

theorem put_append_singleton (fresh : name ∉ before.map Prod.fst) (v w : Value) :
    Entries.put (before ++ [(name, v)]) name w = before ++ [(name, w)] := by
  have others : before.map (fun e => if e.1 = name then (name, w) else e) = before := by
    refine (List.map_congr_left fun e mem => ?_).trans (List.map_id before)
    refine if_neg ?_
    rintro rfl
    exact fresh (List.mem_map_of_mem mem)
  have there : (before ++ [(name, v)]).any (·.1 == name) = true := by simp
  rw [Entries.put, if_pos there, List.map_append, others]
  simp

/-- A header with a new name. -/
theorem add_header (fresh : name ∉ before.map Prod.fst) (path : List String) :
    Document.add ⟨before, path⟩ (.header [] name) = some ⟨before ++ [(name, .table .explicit [])], [name]⟩ := by
  simp [Document.add, openTable, within, lookup_eq_none fresh]

/-- A field that is new in the last table. -/
theorem add_line {f : Field} (fresh : name ∉ before.map Prod.fst) (new : f.key ∉ inner.map Prod.fst) :
    Document.add ⟨before ++ [(name, .table .explicit inner)], [name]⟩ f.line =
      some ⟨before ++ [(name, .table .explicit (inner ++ [f.entry]))], [name]⟩ := by
  simp [Document.add, Field.line, Field.entry, within, assign, lookup_append_singleton fresh, lookup_eq_none new,
    put_append_singleton fresh]

/-- Fields that differ from each other and are new in the last table. -/
theorem add_lines {fields : List Field} (fresh : name ∉ before.map Prod.fst)
    (nodup : (inner.map Prod.fst ++ fields.map Field.key).Nodup) :
    (fields.map Field.line).foldlM Document.add ⟨before ++ [(name, .table .explicit inner)], [name]⟩ =
      some ⟨before ++ [(name, .table .explicit (inner ++ fields.map Field.entry))], [name]⟩ := by
  induction fields generalizing inner with
  | nil => simp
  | cons f fields ih =>
    have new : f.key ∉ inner.map Prod.fst := by
      intro mem
      exact (List.nodup_append.1 nodup).2.2 _ mem _ List.mem_cons_self rfl
    have later := @ih (inner ++ [f.entry]) (by simpa [Field.entry] using nodup)
    rw [List.map_cons, List.foldlM_cons, add_line fresh new]
    simpa using later

/-- A section of a document: a table with a name of its own and fields that differ. -/
structure Section where
  name : String
  fields : List Field
  bare : IsBare name
  nodup : (fields.map Field.key).Nodup

namespace Section

def written (t : Section) : String := writeTable t.name (t.fields.map Field.written)

def lines (t : Section) : List Line := .header [] t.name :: t.fields.map Field.line

def entry (t : Section) : String × Value := (t.name, .table .explicit (t.fields.map Field.entry))

end Section

theorem add_section {t : Section} (fresh : t.name ∉ before.map Prod.fst) (path : List String) :
    t.lines.foldlM Document.add ⟨before, path⟩ = some ⟨before ++ [t.entry], [t.name]⟩ := by
  rw [Section.lines, List.foldlM_cons, add_header fresh]
  simpa [Section.entry] using @add_lines t.name before [] t.fields fresh t.nodup

theorem add_sections {tables : List Section} (nodup : (before.map Prod.fst ++ tables.map Section.name).Nodup)
    (path : List String) :
    ((tables.flatMap Section.lines).foldlM Document.add ⟨before, path⟩).map Document.entries =
      some (before ++ tables.map Section.entry) := by
  induction tables generalizing before path with
  | nil => simp
  | cons t tables ih =>
    have fresh : t.name ∉ before.map Prod.fst := by
      intro mem
      exact (List.nodup_append.1 nodup).2.2 _ mem _ List.mem_cons_self rfl
    have later := @ih (before ++ [t.entry]) (by simpa [Section.entry] using nodup) [t.name]
    rw [List.flatMap_cons, List.foldlM_append, add_section fresh]
    simpa using later

theorem isDocument_sections : ∀ tables : List Section,
    IsDocument (String.intercalate "\n" (tables.map Section.written)).toList (tables.flatMap Section.lines)
  | [] => isDocument_nil
  | [t] => by simpa [Section.written, Section.lines] using isDocument_nil.table t.bare t.fields
  | t :: t' :: tables => by
    have next := (isDocument_sections (t' :: tables)).newline.table t.bare t.fields
    simpa [Section.written, Section.lines, String.toList_intercalate] using next

/-- **Sections read back**, with a blank line between them. -/
theorem document?_sections {tables : List Section} (nodup : (tables.map Section.name).Nodup) :
    document? (String.intercalate "\n" (tables.map Section.written)) = some (tables.map Section.entry) := by
  have unmarked : withoutMark (String.intercalate "\n" (tables.map Section.written)).toList =
      (String.intercalate "\n" (tables.map Section.written)).toList := by
    match tables with
    | [] => rfl
    | [t] => simp [Section.written, writeTable, withoutMark]
    | t :: t' :: tables => simp [Section.written, writeTable, withoutMark, String.toList_intercalate]
  have lines := isDocument_sections tables _ (Nat.lt_succ_self _)
  obtain ⟨d, added, entries⟩ := Option.map_eq_some_iff.1 (@add_sections [] tables nodup [])
  rw [document?, unmarked, lines]
  simp only [Option.bind_eq_bind, Option.bind_some, added, entries]
  rfl

end Lookout.Toml
