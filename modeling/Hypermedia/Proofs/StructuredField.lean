import Mathlib.Data.List.Basic
import Hypermedia.Proofs.Text.Printable
import Hypermedia.StructuredField

/-!
# Lists of strings are read back

A list of strings is written with each string between quotes and a comma between two strings.

* `StructuredField.string?_escaped` reads one string back, whatever follows its closing quote.
* `StructuredField.members?_written` reads the members of a list back, by induction on the list.
* `StructuredField.parseList?_written` puts these together, and
  `StructuredField.renderStrings?_eq_none_iff` says which lists cannot be written.
* `StructuredField.isPrintable_of_parseList?` says that the strings of a list that is read can always
  be written.
-/

namespace Hypermedia.StructuredField

/-! ## Strings -/

/-- Strings are written in printable ASCII. -/
theorem isStringChar_eq (c : Char) : isStringChar c = isPrintableChar c := rfl

/-- One character of a written string is read back. -/
theorem string?_escapeChar {c : Char} (h : isStringChar c = true) (rest : List Char) :
    string? (escapeChar c ++ rest) = (string? rest).map fun (s, rest) => (c :: s, rest) := by
  unfold escapeChar
  by_cases hquote : c = '"'
  · subst hquote
    rfl
  · by_cases hslash : c = '\\'
    · subst hslash
      rfl
    · rw [if_neg (by simp [hquote, hslash]), List.singleton_append, string?]
      · simp [hslash, h]
      · exact fun hc => hquote hc
      · exact fun _ _ hc _ => hslash hc

/-- A written string is read back, whatever follows its closing quote. -/
theorem string?_escaped {s : List Char} (h : s.all isStringChar = true) (rest : List Char) :
    string? (s.flatMap escapeChar ++ '"' :: rest) = some (s, rest) := by
  induction s with
  | nil => rfl
  | cons c more ih =>
      rw [List.all_cons, Bool.and_eq_true] at h
      rw [List.flatMap_cons, List.append_assoc, string?_escapeChar h.1, ih h.2]
      rfl

/-! ## Members -/

/-- The member of a list that is a string. -/
def Member.ofString (s : String) : Member :=
  .item ⟨.string s, []⟩

/-- Where no semicolon follows, an item has no parameters. -/
theorem parameters?_of_head?_ne {s : List Char} (h : s.head? ≠ some ';') (fuel : Nat) :
    parameters? fuel s = some ([], s) := by
  cases s with
  | nil => cases fuel <;> rfl
  | cons c rest =>
      have hc : c ≠ ';' := fun heq => h (heq ▸ rfl)
      cases fuel <;> simp [parameters?, hc]

/-- A written string is read as a member, unless parameters follow. -/
theorem member?_renderString {s : String} (h : s.toList.all isStringChar = true)
    (rest : List Char) (hrest : rest.head? ≠ some ';') :
    member? (renderString s ++ rest) = some (.ofString s, rest) := by
  have hstring : string? (s.toList.flatMap escapeChar ++ '"' :: rest) = some (s.toList, rest) :=
    string?_escaped h rest
  have hbare : bareItem? (renderString s ++ rest) = some (.string s, rest) := by
    have hquoted : renderString s ++ rest =
        '"' :: (s.toList.flatMap escapeChar ++ '"' :: rest) := by
      simp [renderString]
    rw [hquoted, bareItem?, hstring]
    exact congrArg (fun text => some (BareItem.string text, rest)) String.ofList_toList
  have hitem : item? (renderString s ++ rest) = some (⟨.string s, []⟩, rest) := by
    unfold item?
    rw [hbare]
    simp [parameters?_of_head?_ne hrest]
  have hmember : member? (renderString s ++ rest) =
      (item? (renderString s ++ rest)).map fun read => (.item read.1, read.2) := rfl
  rw [hmember, hitem]
  rfl

/-- A written list of strings, as characters. -/
def written (items : List String) : List Char :=
  List.intercalate ", ".toList (items.map renderString)

/-- A list of more than one string is written with a comma after the first one. -/
theorem written_cons_cons (s next : String) (more : List String) :
    written (s :: next :: more) = renderString s ++ (',' :: ' ' :: written (next :: more)) := by
  unfold written
  rw [List.map_cons, List.map_cons, List.intercalate_cons_cons, List.append_assoc, ← List.map_cons]
  rfl

/-- A written list starts with a quote. -/
theorem exists_written_cons (s : String) (more : List String) :
    ∃ rest, written (s :: more) = '"' :: rest := by
  cases more with
  | nil => exact ⟨_, List.append_nil _⟩
  | cons next more => exact ⟨_, written_cons_cons s next more⟩

/-- A written list has at least one character for each string. -/
theorem length_le_length_written (items : List String) : items.length ≤ (written items).length := by
  cases items with
  | nil => exact Nat.le_refl _
  | cons s more =>
      induction more generalizing s with
      | nil => simp [written, renderString]
      | cons next more ih =>
          have hmore := ih next
          rw [written_cons_cons, List.length_append]
          simp only [List.length_cons] at hmore ⊢
          omega

/-- The members of a written list are read back, if there is fuel for each. -/
theorem members?_written {s : String} {more : List String}
    (h : ∀ item ∈ s :: more, item.toList.all isStringChar = true) {fuel : Nat}
    (hfuel : more.length < fuel) :
    members? fuel (written (s :: more)) = some ((s :: more).map Member.ofString) := by
  induction more generalizing s fuel with
  | nil =>
      obtain ⟨fuel, rfl⟩ := Nat.exists_eq_succ_of_ne_zero (Nat.ne_of_gt hfuel)
      have hread := member?_renderString (h s List.mem_cons_self) [] (by simp)
      have hwritten : written [s] = renderString s ++ [] := by simp [written]
      rw [hwritten, members?, hread]
      rfl
  | cons next more ih =>
      obtain ⟨fuel, rfl⟩ := Nat.exists_eq_succ_of_ne_zero (Nat.ne_zero_of_lt hfuel)
      have hread := member?_renderString (h s List.mem_cons_self)
        (',' :: ' ' :: written (next :: more)) (by simp)
      have hmore := ih (fun item hitem => h item (List.mem_cons_of_mem _ hitem))
        (Nat.lt_of_succ_lt_succ hfuel)
      -- The blank after the comma is skipped, and nothing else, because a quote follows.
      have hskip : skipWhitespace (' ' :: written (next :: more)) = written (next :: more) := by
        obtain ⟨rest, hrest⟩ := exists_written_cons next more
        rw [hrest]
        rfl
      rw [written_cons_cons, members?, hread]
      simp only [Option.bind_eq_bind, Option.bind_some]
      have hcomma : skipWhitespace (',' :: ' ' :: written (next :: more)) =
          ',' :: ' ' :: written (next :: more) := rfl
      rw [hcomma]
      simp only [hskip, hmore]
      rfl

/-! ## Lists -/

/-- What a list of strings is written with is ASCII. -/
theorem all_written {items : List String}
    (h : ∀ item ∈ items, item.toList.all isStringChar = true) :
    (written items).all isPrintableChar = true := by
  refine all_intercalate (by decide) fun piece hpiece => ?_
  obtain ⟨item, hitem, rfl⟩ := List.mem_map.mp hpiece
  have hitem := h item hitem
  unfold renderString
  rw [List.all_append, List.all_cons, List.all_flatMap]
  simp only [List.all_cons, List.all_nil, Bool.and_true, Bool.and_eq_true]
  refine ⟨⟨rfl, List.all_eq_true.mpr fun c hc => ?_⟩, rfl⟩
  have hc := List.all_eq_true.mp hitem c hc
  unfold escapeChar
  split_ifs
  · simp only [List.all_cons, List.all_nil, Bool.and_true, ← isStringChar_eq, hc]
    rfl
  · simp only [List.all_cons, List.all_nil, Bool.and_true, ← isStringChar_eq, hc]

/-- Which lists of strings cannot be written. -/
theorem renderStrings?_eq_none_iff {items : List String} :
    renderStrings? items = none ↔ ∃ item ∈ items, isPrintable item = false := by
  unfold renderStrings?
  split_ifs with hall
  · refine iff_of_false id ?_
    rintro ⟨item, hitem, hnot⟩
    rw [List.all_eq_true] at hall
    exact Bool.false_ne_true (hnot.symm.trans (hall item hitem))
  · refine iff_of_true rfl ?_
    simpa [isPrintable, isStringChar_eq] using hall

/-- The text of a list of strings that can be written. -/
theorem renderStrings?_eq_some {items : List String}
    (h : ∀ item ∈ items, isPrintable item = true) :
    renderStrings? items = some (.ofList (written items)) :=
  if_pos (List.all_eq_true.mpr h)

/-- A list of strings is read back. -/
theorem parseList?_written {items : List String} (hne : items ≠ [])
    (h : ∀ item ∈ items, isPrintable item = true) :
    parseList? (.ofList (written items)) = some (items.map Member.ofString) := by
  obtain ⟨s, more, rfl⟩ := List.exists_cons_of_ne_nil hne
  obtain ⟨rest, hrest⟩ := exists_written_cons s more
  have hascii : (written (s :: more)).all (·.toNat < 0x80) = true := by
    have hall := all_written h
    rw [List.all_eq_true] at hall ⊢
    intro c hc
    have hbounds := isPrintableChar_iff.mp (hall c hc)
    rw [decide_eq_true_eq]
    omega
  have hmembers : members? ((written (s :: more)).length + 1) (written (s :: more)) =
      some ((s :: more).map Member.ofString) := by
    have hlength := length_le_length_written (s :: more)
    rw [List.length_cons] at hlength
    exact members?_written h (by omega)
  unfold parseList?
  rw [String.toList_ofList, if_pos hascii]
  have hskip : skipSpaces (written (s :: more)) = written (s :: more) := by
    rw [hrest]
    rfl
  rw [hskip]
  split
  · next hnil =>
    rw [hrest] at hnil
    cases hnil
  · exact hmembers

/-! ## Strings that are read -/

/-- A string that is read can be written. -/
theorem all_of_string? {s text rest : List Char} (h : string? s = some (text, rest)) :
    text.all isStringChar = true := by
  fun_induction string? s generalizing text with
  | case1 => cases h
  | case2 =>
      obtain ⟨rfl, -⟩ := Prod.mk.inj (Option.some.inj h)
      rfl
  | case3 c more hescaped ih =>
      obtain ⟨⟨inner, left⟩, hinner, heq⟩ := Option.map_eq_some_iff.mp h
      obtain ⟨rfl, rfl⟩ := Prod.mk.inj heq
      have hc : isStringChar c = true := by
        rw [Bool.or_eq_true, decide_eq_true_eq, decide_eq_true_eq] at hescaped
        rcases hescaped with rfl | rfl <;> rfl
      rw [List.all_cons, hc, ih hinner]
      rfl
  | case4 => cases h
  | case5 c more _ _ hc ih =>
      obtain ⟨⟨inner, left⟩, hinner, heq⟩ := Option.map_eq_some_iff.mp h
      obtain ⟨rfl, rfl⟩ := Prod.mk.inj heq
      rw [Bool.and_eq_true] at hc
      rw [List.all_cons, hc.2, ih hinner]
      rfl
  | case6 => cases h

/-- A number is no string. -/
theorem magnitude?_ne_string (s : List Char) (text : String) (rest : List Char) :
    magnitude? s ≠ some (.string text, rest) := by
  unfold magnitude?
  dsimp only
  split_ifs
  · simp
  · split
    · split_ifs <;> simp
    · simp

/-- A byte sequence is no string. -/
theorem bytes?_ne_string (s : List Char) (text : String) (rest : List Char) :
    bytes? s ≠ some (.string text, rest) := by
  unfold bytes?
  split
  · simp
  · dsimp only
    split_ifs <;> simp

/-- A string that is read as an item is printable. -/
theorem isPrintable_of_bareItem? {s rest : List Char} {text : String}
    (h : bareItem? s = some (.string text, rest)) : isPrintable text = true := by
  unfold bareItem? at h
  split at h
  · obtain ⟨⟨inner, left⟩, hinner, heq⟩ := Option.map_eq_some_iff.mp h
    obtain ⟨htext, -⟩ := Prod.mk.inj heq
    rw [← BareItem.string.inj htext, isPrintable_ofList]
    exact all_of_string? hinner
  · cases h
  · cases h
  · exact absurd h (bytes?_ne_string _ text rest)
  · obtain ⟨⟨number, left⟩, hnumber, heq⟩ := Option.map_eq_some_iff.mp h
    cases number with
    | string inner => exact absurd hnumber (magnitude?_ne_string _ inner left)
    | _ => cases (Prod.mk.inj heq).1
  · split_ifs at h
    · cases h
    · exact absurd h (magnitude?_ne_string _ text rest)
  · cases h

/-- A string that is read as a member of a list is printable. -/
theorem isPrintable_of_member? {s rest : List Char} {text : String} {parameters : Parameters}
    (h : member? s = some (.item ⟨.string text, parameters⟩, rest)) : isPrintable text = true := by
  unfold member? at h
  split at h
  · simp only [Option.bind_eq_bind, Option.bind_eq_some_iff, Option.pure_def, Option.some.injEq,
      Prod.mk.injEq, reduceCtorEq, false_and, and_false, exists_false] at h
  · obtain ⟨⟨item, left⟩, hitem, heq⟩ := Option.map_eq_some_iff.mp h
    obtain ⟨hmember, -⟩ := Prod.mk.inj heq
    obtain rfl := Member.item.inj hmember
    unfold item? at hitem
    obtain ⟨⟨value, after⟩, hvalue, hrest⟩ := Option.bind_eq_some_iff.mp hitem
    obtain ⟨⟨read, last⟩, -, hread⟩ := Option.bind_eq_some_iff.mp hrest
    obtain ⟨heq, -⟩ := Prod.mk.inj (Option.some.inj hread)
    obtain ⟨rfl, -⟩ := Item.mk.inj heq
    exact isPrintable_of_bareItem? hvalue

/-- The strings of a list that is read are printable. -/
theorem isPrintable_of_members? {fuel : Nat} {s : List Char} {members : List Member}
    (h : members? fuel s = some members) {text : String} {parameters : Parameters}
    (hmem : .item ⟨.string text, parameters⟩ ∈ members) : isPrintable text = true := by
  induction fuel generalizing s members with
  | zero => cases h
  | succ fuel ih =>
      obtain ⟨⟨member, left⟩, hmember, hrest⟩ := Option.bind_eq_some_iff.mp h
      have hfirst : member = .item ⟨.string text, parameters⟩ → isPrintable text = true := by
        rintro rfl
        exact isPrintable_of_member? hmember
      dsimp only at hrest
      split at hrest
      · obtain rfl := Option.some.inj hrest
        exact hfirst (List.mem_singleton.mp hmem).symm
      · obtain ⟨more, hmore, heq⟩ := Option.bind_eq_some_iff.mp hrest
        obtain rfl := Option.some.inj heq
        rcases List.mem_cons.mp hmem with heq | hmem
        · exact hfirst heq.symm
        · exact ih hmore hmem
      · cases hrest

/-- The same of a whole list. -/
theorem isPrintable_of_parseList? {list : String} {members : List Member}
    (h : parseList? list = some members) {text : String} {parameters : Parameters}
    (hmem : .item ⟨.string text, parameters⟩ ∈ members) : isPrintable text = true := by
  unfold parseList? at h
  dsimp only at h
  split_ifs at h
  split at h
  · obtain rfl := Option.some.inj h
    cases hmem
  · exact isPrintable_of_members? h hmem

end Hypermedia.StructuredField
