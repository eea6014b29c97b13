import Mathlib.Data.List.Nodup
import Hypermedia.Toml.Parser
import Hypermedia.Proofs.Toml.Integer

/-!
# Writing and reading TOML documents

Documents without headers, with an entry on each line: a key without quotes, and a text or an integer.

* `Toml.Scalar` is such a value, `Toml.document` writes entries.
* `Toml.quoted?_escape` says that any text is read as it was written.
* `Toml.parse?_document` says that a document is read as its entries, and refused if one of them is an
  integer of more than 64 bits.
-/

namespace Hypermedia.Toml

/-! ## Texts -/

/-- What is written for a character of a text: itself, unless it would end the text, start an escape or
be a control character. -/
def escape (c : Char) : List Char :=
  if c = '"' || c = '\\' then ['\\', c]
  else if isTextChar c then [c]
  else ['\\', 'u', '0', '0', Nat.digitChar (c.toNat / 16), Nat.digitChar (c.toNat % 16)]

/-- The escape of a control character stands for it. -/
theorem charOfDigits?_digitChar {c : Char} (hc : isTextChar c = false) :
    charOfDigits? ['0', '0', Nat.digitChar (c.toNat / 16), Nat.digitChar (c.toNat % 16)] =
      some c := by
  have hall : ∀ n < 128, charOfDigits? ['0', '0', Nat.digitChar (n / 16), Nat.digitChar (n % 16)] =
      some (Char.ofNat n) := by
    decide +kernel
  have hlt : c.toNat < 128 := by
    by_contra hge
    have htext : isTextChar c = true := by
      have hblank : ' ' ≤ c := by
        show 32 ≤ c.toNat
        omega
      have hdelete : c ≠ '\x7f' := by
        rintro rfl
        exact hge (by decide)
      simp [isTextChar, hblank, hdelete]
    rw [hc] at htext
    cases htext
  rw [hall _ hlt, Char.ofNat_toNat]

/-- What is written for a character is read as the character. -/
theorem quoted?_escape_append (c : Char) (s : List Char) :
    quoted? (escape c ++ s) = (quoted? s).map fun (more, rest) => (c :: more, rest) := by
  unfold escape
  split_ifs with hmark htext
  · rw [Bool.or_eq_true, decide_eq_true_eq, decide_eq_true_eq] at hmark
    obtain rfl | rfl := hmark
    · simp [quoted?, escape?, Option.map_eq_bind]
    · simp [quoted?, escape?, Option.map_eq_bind]
  · simp only [Bool.or_eq_true, decide_eq_true_eq, not_or] at hmark
    simp [quoted?, hmark, htext]
  · rw [Bool.not_eq_true] at htext
    simp [quoted?, charOfDigits?_digitChar htext, Option.map_eq_bind]

/-- A text is read as it was written. -/
theorem quoted?_escape (text rest : List Char) :
    quoted? (text.flatMap escape ++ '"' :: rest) = some (text, rest) := by
  induction text with
  | nil => simp [quoted?]
  | cons c text ih => rw [List.flatMap_cons, List.append_assoc, quoted?_escape_append, ih]; rfl

/-- Nothing that is written for a character starts with a quote. -/
theorem exists_escape (c : Char) : ∃ d more, escape c = d :: more ∧ d ≠ '"' := by
  unfold escape
  split_ifs with hmark htext
  · exact ⟨'\\', [c], rfl, by decide⟩
  · simp only [Bool.or_eq_true, decide_eq_true_eq, not_or] at hmark
    exact ⟨c, [], rfl, hmark.1⟩
  · exact ⟨'\\', _, rfl, by decide⟩

/-- A text between quotes is read as it was written; it is not taken for one on several lines. -/
theorem string?_escape (text rest : List Char) :
    string? ('"' :: (text.flatMap escape ++ '"' :: '\n' :: rest)) =
      some (.ofList text, '\n' :: rest) := by
  have hread := quoted?_escape text ('\n' :: rest)
  unfold string?
  split
  · next heq =>
    obtain ⟨-, heq⟩ := List.cons.inj heq
    cases text with
    | nil => cases (List.cons.inj (List.cons.inj heq).2).1
    | cons c text =>
        obtain ⟨d, more, hescape, hd⟩ := exists_escape c
        rw [List.flatMap_cons, hescape] at heq
        exact absurd (List.cons.inj heq).1 hd
  · next heq => cases heq
  · next heq =>
    obtain ⟨-, rfl⟩ := List.cons.inj heq
    rw [hread]
    rfl
  · next heq => cases heq
  · next hquote _ => exact absurd rfl (hquote _)

/-! ## Values -/

/-- A text or an integer. -/
inductive Scalar where
  /-- A text. -/
  | string (text : String)
  /-- An integer. -/
  | integer (n : Int)
  deriving DecidableEq, Repr

namespace Scalar

/-- What is written for a text or an integer. -/
def written : Scalar → List Char
  | .string text => '"' :: (text.toList.flatMap escape ++ ['"'])
  | .integer n => integerText n

/-- The value that a text or an integer is. -/
def value : Scalar → Value
  | .string text => .string text
  | .integer n => .integer n

/-- Whether a value can be written: an integer needs 64 bits. -/
def Fits : Scalar → Prop
  | .string _ => True
  | .integer n => -(2 : Int) ^ 63 ≤ n ∧ n < (2 : Int) ^ 63

instance : DecidablePred Fits
  | .string _ => inferInstanceAs (Decidable True)
  | .integer n => inferInstanceAs (Decidable (-(2 : Int) ^ 63 ≤ n ∧ n < (2 : Int) ^ 63))

end Scalar

/-- What starts with a minus or a digit is read as a number. -/
theorem value?_of_number {c : Char} (hc : c = '-' ∨ c.isDigit = true) (s : List Char)
    (fuel depth : Nat) : value? (fuel + 1) depth (c :: s) = number? (c :: s) := by
  have hne : ∀ d : Char, (d ≠ '-' ∧ d.isDigit = false) → c ≠ d := by
    rintro d ⟨hminus, hdigit⟩ rfl
    rcases hc with rfl | hc
    · exact hminus rfl
    · rw [hdigit] at hc
      cases hc
  have hlist := hne '[' (by decide)
  have htable := hne '\x7b' (by decide)
  have hquote := hne '"' (by decide)
  have hapostrophe := hne '\'' (by decide)
  have htrue := hne 't' (by decide)
  have hfalse := hne 'f' (by decide)
  simp [value?, simple?, hlist, htable, hquote, hapostrophe, htrue, hfalse]

/-- A text or an integer is read as it was written, unless the integer has more than 64 bits. -/
theorem value?_written (scalar : Scalar) (rest : List Char) (fuel depth : Nat) :
    value? (fuel + 1) depth (scalar.written ++ '\n' :: rest) =
      if scalar.Fits then some (scalar.value, '\n' :: rest) else none := by
  cases scalar with
  | string text =>
      have hread := string?_escape text.toList rest
      simp [Scalar.written, Scalar.Fits, Scalar.value, value?, simple?, hread]
  | integer n =>
      have hvalue : number? (integerText n ++ '\n' :: rest) =
          if (Scalar.integer n).Fits then some (.integer n, '\n' :: rest) else none := by
        rw [number?_integerText, integerOf?_natAbs, apply_ite (Option.map _)]
        rfl
      obtain ⟨c, more, htext, hc⟩ := exists_integerText n
      rw [htext, List.cons_append] at hvalue
      rw [Scalar.written, htext, List.cons_append, value?_of_number hc, hvalue]
      rfl

/-! ## Lines -/

/-- Whether a key can be written without quotes. -/
def IsBareKey (key : String) : Prop :=
  key ≠ "" ∧ key.toList.all isKeyChar = true

instance : DecidablePred IsBareKey := fun key =>
  inferInstanceAs (Decidable (key ≠ "" ∧ key.toList.all isKeyChar = true))

/-- The line of an entry. -/
def line (key : String) (scalar : Scalar) : List Char :=
  key.toList ++ (" = ".toList ++ (scalar.written ++ ['\n']))

theorem ne_of_isKeyChar {c d : Char} (hc : isKeyChar c = true) (hd : isKeyChar d = false) : c ≠ d := by
  rintro rfl
  rw [hc] at hd
  cases hd

/-- A key has a first character. -/
theorem exists_of_isBareKey {key : String} (hkey : IsBareKey key) :
    ∃ c more, key.toList = c :: more ∧ isKeyChar c = true := by
  obtain ⟨hne, hall⟩ := hkey
  cases hlist : key.toList with
  | nil => exact absurd (String.toList_eq_nil_iff.mp hlist) hne
  | cons c more =>
      rw [hlist, List.all_cons, Bool.and_eq_true] at hall
      exact ⟨c, more, rfl, hall.1⟩

/-- No blanks are dropped before a key. -/
theorem skipBlanks_cons {c : Char} (hc : isKeyChar c = true) (s : List Char) :
    skipBlanks (c :: s) = c :: s := by
  have hblank := ne_of_isKeyChar hc (d := ' ') rfl
  have htab := ne_of_isKeyChar hc (d := '\t') rfl
  simp [skipBlanks, isBlank, hblank, htab]

/-- A key without quotes is read. -/
theorem key?_append {key : String} (hkey : IsBareKey key) (rest : List Char) :
    key? (key.toList ++ (" = ".toList ++ rest)) = some ([], key, '=' :: ' ' :: rest) := by
  obtain ⟨c, more, hlist, hc⟩ := exists_of_isBareKey hkey
  have hpart : keyPart? (key.toList ++ (" = ".toList ++ rest)) =
      some (key, " = ".toList ++ rest) := by
    have hquote := ne_of_isKeyChar hc (d := '"') rfl
    have hapostrophe := ne_of_isKeyChar hc (d := '\'') rfl
    have hname : (key.toList ++ (" = ".toList ++ rest)).takeWhile isKeyChar = key.toList := by
      rw [List.takeWhile_append_of_pos (List.all_eq_true.mp hkey.2)]
      exact List.append_nil _
    unfold keyPart?
    split
    · next heq =>
      rw [hlist] at heq
      exact absurd (List.cons.inj heq).1 hquote
    · next heq =>
      rw [hlist] at heq
      exact absurd (List.cons.inj heq).1 hapostrophe
    · dsimp only
      rw [hname, List.drop_left, String.ofList_toList, hlist]
      rfl
  have hskip : skipBlanks (key.toList ++ (" = ".toList ++ rest)) =
      key.toList ++ (" = ".toList ++ rest) := by
    rw [hlist]
    exact skipBlanks_cons hc _
  have hparts : keyParts? maxDepth (key.toList ++ (" = ".toList ++ rest)) =
      some ([key], '=' :: ' ' :: rest) := by
    rw [show maxDepth = 78 + 1 from rfl, keyParts?, hskip, hpart]
    rfl
  rw [key?, hparts]
  rfl

/-- What is written for a value does not start with a blank. -/
theorem exists_written (scalar : Scalar) :
    ∃ c more, scalar.written = c :: more ∧ c ≠ ' ' ∧ c ≠ '\t' := by
  cases scalar with
  | string text => exact ⟨'"', _, rfl, by decide, by decide⟩
  | integer n =>
      obtain ⟨c, more, htext, hc⟩ := exists_integerText n
      refine ⟨c, more, htext, ?_, ?_⟩
      · rintro rfl
        simp at hc
      · rintro rfl
        simp at hc

/-- The line of an entry is read as the entry, unless its value cannot be written. -/
theorem entry?_line {key : String} (hkey : IsBareKey key) (scalar : Scalar) (rest : List Char) :
    entry? (line key scalar ++ rest) =
      if scalar.Fits then some (⟨[], key, scalar.value⟩, '\n' :: rest) else none := by
  have hskip : skipBlanks (' ' :: (scalar.written ++ '\n' :: rest)) =
      scalar.written ++ '\n' :: rest := by
    obtain ⟨c, more, hwritten, hc⟩ := exists_written scalar
    rw [hwritten]
    simp [skipBlanks, isBlank, hc]
  have hline : line key scalar ++ rest =
      key.toList ++ (" = ".toList ++ (scalar.written ++ '\n' :: rest)) := by
    simp [line]
  rw [hline, entry?, key?_append hkey]
  simp only [Option.bind_eq_bind, Option.bind_some, mark?, if_true, hskip, value?_written]
  split_ifs <;> rfl

/-! ## Documents -/

/-- A document with an entry on each line. -/
def document (entries : List (String × Scalar)) : List Char :=
  entries.flatMap fun entry => line entry.1 entry.2

/-- A line that starts with a key is read as an entry. -/
theorem lines?_cons {c : Char} (hc : isKeyChar c = true) (s : List Char) (fuel : Nat) :
    lines? (fuel + 1) (c :: s) =
      ( entry? (c :: s)).bind fun (entry, rest) =>
        (endLine? rest).bind fun rest => (lines? fuel rest).map (.entry entry :: ·) := by
  have hend : endLine? (c :: s) = none := by
    have hcomment := ne_of_isKeyChar hc (d := '#') rfl
    have hline := ne_of_isKeyChar hc (d := '\n') rfl
    have hreturn := ne_of_isKeyChar hc (d := '\r') rfl
    simp [endLine?, skipBlanks_cons hc, hcomment, lineEnd?, hline, hreturn]
  have hheader := ne_of_isKeyChar hc (d := '[') rfl
  rw [lines?, skipBlanks_cons hc]
  simp [hheader, hend, Option.map_eq_bind]

/-- The lines of a document are read as its entries, if all values can be written. -/
theorem lines?_document {entries : List (String × Scalar)}
    (hkeys : ∀ entry ∈ entries, IsBareKey entry.1) (fuel : Nat) (hfuel : entries.length ≤ fuel) :
    lines? (fuel + 1) (document entries) =
      if ∀ entry ∈ entries, entry.2.Fits then
        some (entries.map fun entry => .entry ⟨[], entry.1, entry.2.value⟩)
      else none := by
  induction entries generalizing fuel with
  | nil => simp [document, lines?, skipBlanks]
  | cons entry entries ih =>
      obtain ⟨key, scalar⟩ := entry
      obtain ⟨fuel, rfl⟩ : ∃ k, fuel = k + 1 := ⟨fuel - 1, by simp at hfuel; omega⟩
      have hkey := hkeys _ List.mem_cons_self
      have hread := entry?_line hkey scalar (document entries)
      have hrest := ih (fun entry hentry => hkeys entry (List.mem_cons_of_mem _ hentry)) fuel
        (by simpa using hfuel)
      obtain ⟨c, more, hlist, hc⟩ := exists_of_isBareKey hkey
      have hdocument : document ((key, scalar) :: entries) = line key scalar ++ document entries :=
        rfl
      have hcons : line key scalar ++ document entries =
          c :: (more ++ (" = ".toList ++ (scalar.written ++ ['\n'])) ++ document entries) := by
        rw [line, hlist]
        rfl
      rw [hdocument, hcons, lines?_cons hc, ← hcons, hread]
      by_cases hfits : scalar.Fits
      · have hend : endLine? ('\n' :: document entries) = some (document entries) := by
          simp [endLine?, skipBlanks, isBlank, lineEnd?]
        rw [if_pos hfits, Option.bind_some]
        dsimp only
        rw [hend, Option.bind_some, hrest]
        simp only [List.forall_mem_cons, hfits, true_and, List.map_cons]
        split_ifs <;> rfl
      · simp [hfits]

/-- A new key is added behind those of a table. -/
theorem set_of_get?_eq_none {table : Table} {key : String} {value : Value}
    (h : table.get? key = none) : table.set key value = table ++ [(key, value)] := by
  induction table with
  | nil => rfl
  | cons entry table ih =>
      obtain ⟨other, old⟩ := entry
      obtain ⟨hne, htable⟩ := List.forall_mem_cons.mp (List.lookup_eq_none_iff.mp h)
      have hother : other ≠ key := fun heq => bne_iff_ne.mp hne heq.symm
      rw [Table.set, if_neg hother, ih (List.lookup_eq_none_iff.mpr htable)]
      rfl

/-- New keys are added behind those of a table. -/
theorem fill?_map {entries : List (String × Scalar)} (table : Table)
    (hnodup : (entries.map Prod.fst).Nodup)
    (hnew : ∀ entry ∈ entries, table.get? entry.1 = none) :
    fill? (entries.map fun entry => ⟨[], entry.1, entry.2.value⟩) table =
      some (table ++ entries.map fun entry => (entry.1, entry.2.value)) := by
  induction entries generalizing table with
  | nil => simp [fill?]
  | cons entry entries ih =>
      obtain ⟨key, scalar⟩ := entry
      rw [List.map_cons, List.nodup_cons] at hnodup
      have hinsert : table.insertAt? [] key scalar.value = some (table ++ [(key, scalar.value)]) := by
        have hget := hnew _ List.mem_cons_self
        simp [Table.insertAt?, Table.alter?, hget, set_of_get?_eq_none hget]
      have hrest := ih (table ++ [(key, scalar.value)]) hnodup.2 ?_
      · unfold fill? at hrest ⊢
        rw [List.map_cons, List.foldlM_cons, hinsert]
        simpa using hrest
      · intro entry hentry
        have hne : entry.1 ≠ key := by
          rintro rfl
          exact hnodup.1 (List.mem_map.mpr ⟨entry, hentry, rfl⟩)
        have hget := hnew entry (List.mem_cons_of_mem _ hentry)
        unfold Table.get? at hget ⊢
        rw [List.lookup_append, hget, Option.none_or, List.lookup_cons, beq_false_of_ne hne]
        rfl

theorem leadingEntries_map (entries : List Entry) : leadingEntries (entries.map .entry) = entries := by
  induction entries with
  | nil => rfl
  | cons entry entries ih => rw [List.map_cons, leadingEntries, ih]

theorem sections?_map (table : Table) (entries : List Entry) :
    sections? table (entries.map .entry) = some table := by
  induction entries with
  | nil => rfl
  | cons entry entries ih => rw [List.map_cons, sections?, ih]

theorem length_le_document (entries : List (String × Scalar)) :
    entries.length ≤ (document entries).length := by
  induction entries with
  | nil => exact Nat.le_refl 0
  | cons entry entries ih =>
      have hline : 0 < (line entry.1 entry.2).length := by simp [line]
      rw [document, List.flatMap_cons, List.length_append, List.length_cons]
      unfold document at ih
      omega

/-- A document is read as its entries, and refused if one of the values cannot be written. -/
theorem parse?_document {entries : List (String × Scalar)}
    (hkeys : ∀ entry ∈ entries, IsBareKey entry.1) (hnodup : (entries.map Prod.fst).Nodup) :
    parse? (document entries) =
      if ∀ entry ∈ entries, entry.2.Fits then
        some (entries.map fun entry => (entry.1, entry.2.value))
      else none := by
  have hmark : ∀ s, document entries ≠ '\uFEFF' :: s := by
    intro s heq
    cases entries with
    | nil => cases heq
    | cons entry entries =>
        obtain ⟨c, more, hlist, hc⟩ := exists_of_isBareKey (hkeys _ List.mem_cons_self)
        rw [document, List.flatMap_cons, line, hlist] at heq
        rw [(List.cons.inj heq).1] at hc
        cases hc
  have hlines := lines?_document hkeys _ (length_le_document entries)
  unfold parse?
  split
  · next heq => exact absurd heq (hmark _)
  · dsimp only
    rw [hlines]
    by_cases hfits : ∀ entry ∈ entries, entry.2.Fits
    · have hfill := fill?_map [] hnodup fun _ _ => rfl
      have hlist : entries.map (fun entry => Line.entry ⟨[], entry.1, entry.2.value⟩) =
          (entries.map fun entry => ⟨[], entry.1, entry.2.value⟩).map Line.entry := by
        rw [List.map_map]
        rfl
      rw [if_pos hfits, if_pos hfits, hlist, Option.bind_eq_bind, Option.bind_some,
        leadingEntries_map, hfill, Option.bind_eq_bind, Option.bind_some, sections?_map]
      rfl
    · rw [if_neg hfits, if_neg hfits]
      rfl

end Hypermedia.Toml
